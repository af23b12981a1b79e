import StatementParser.Main
import StatementParser.Node.Stack
import StatementParser.Proofs.Rule.Chain
import StatementParser.Proofs.Rule.Discipline
import StatementParser.Proofs.Program.RoundTrip
import StatementParser.Proofs.Program.Concatenation
import StatementParser.Proofs.Program.Lookahead
import StatementParser.Proofs.Program.Nesting
import StatementParser.Proofs.Program.Respelling
import StatementParser.Proofs.Program.Texts
import StatementParser.Proofs.Listing.Concatenation
import StatementParser.Proofs.Listing.Layout
import StatementParser.Proofs.Command.Parse
import StatementParser.Proofs.Command.Verbosity
import StatementParser.Proofs.Command.Grammar
