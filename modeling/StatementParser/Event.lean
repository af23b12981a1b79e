import StatementParser.SyntaxError

/-!
What a run reports while it works: the start of each statement, the end of the parse, and on the
command line the listing read and the program found correct.
-/
namespace StatementParser

inductive Event where
  | statement (position : Nat) (kind : Kind)
  | parsed (statements : Nat)
  | rejected (error : SyntaxError)
  | listed (path : String) (tokens : Nat)
  | checked (statements : Nat)
  deriving DecidableEq, Repr

end StatementParser
