import StatementParser.Proofs.Program.Location

/-!
The message of a syntax error tells how to go on. A token of the kind that it names, put in place of
the one found, lets the program be completed; where nothing is named an identifier will do. An
unclosed block is reported at the end of the input only, and a conditional that is too deep at its
keyword, inside as many open blocks as there may be.
-/
namespace StatementParser

/-- How a message speaks of a kind: by its sign in quotes, or by its name where it has none. -/
def Kind.spelling (kind : Kind) : String :=
  match kind.lexeme? with
  | some lexeme => "'" ++ lexeme ++ "'"
  | none => kind.name

theorem Reason.message_names {reason : Reason} (named : reason ≠ .unexpected)
    (shallow : reason ≠ .tooDeep) :
    ∃ context, reason.message = "Expected " ++ reason.remedy.spelling ++ context := by
  cases reason with
  | unexpected => exact absurd rfl named
  | tooDeep => exact absurd rfl shallow
  | identifier => exact ⟨"", rfl⟩
  | identifierAfterInt => exact ⟨" after 'int'", rfl⟩
  | semicolonAfterDeclaration => exact ⟨" after variable declaration", rfl⟩
  | assignAfterIdentifier => exact ⟨" after identifier", rfl⟩
  | semicolonAfterExpression => exact ⟨" after expression", rfl⟩
  | parenAfterIf => exact ⟨" after 'if'", rfl⟩
  | parenAfterCondition => exact ⟨" after condition", rfl⟩
  | braceAfterCondition => exact ⟨" after condition", rfl⟩
  | braceAfterStatements => exact ⟨" after statements", rfl⟩

namespace Program

open Rule
open Token (opened)

def messages : List String :=
  ["Unexpected token", "Expected identifier after 'int'", "Expected ';' after variable declaration",
    "Expected '=' after identifier", "Expected ';' after expression", "Expected '(' after 'if'",
    "Expected ')' after condition", "Expected '\x7b' after condition",
    "Expected '\x7d' after statements", "Conditional nested too deeply"]

theorem message_mem_messages {reason : Reason} (possible : reason ≠ .identifier) :
    reason.message ∈ messages := by
  cases reason with
  | identifier => exact absurd rfl possible
  | _ => simp [Reason.message, messages]

variable {tokens : List Token} {error : SyntaxError}

theorem Refused.first_rest {read rest : List Token} (refused : Refused tokens error read rest) :
    Token.first rest = tokens.getD error.position Token.eof := by
  rw [← Token.first_drop, refused.split, refused.position, List.drop_left]

theorem site_of_parse_error (rejected : parse tokens = .error error) :
    error.reason ≠ .identifier ∧
      (error.reason = .braceAfterStatements →
        (tokens.getD error.position Token.eof).kind = .eof) ∧
      (error.reason = .tooDeep → (tokens.getD error.position Token.eof).kind = .ifWord ∧
        opened (tokens.take error.position) = maxNesting) := by
  obtain ⟨after, -, -, -, site⟩ := exists_run_of_parseWithin_error rejected
  refine ⟨site.possible, site.unclosed, ?_⟩
  intro deep
  obtain ⟨word, bound, limit, full⟩ := site.full deep
  cases limit
  exact ⟨word, by omega⟩

/-- Every message of the parser names a repair: a token of the kind asked for is not what was found,
and in its place it can be completed to a program. -/
theorem error_repairable (rejected : parse tokens = .error error) :
    error.reason.message ∈ messages ∧
      (error.reason ≠ .unexpected → error.reason ≠ .tooDeep →
        ∃ context, error.reason.message = "Expected " ++ error.reason.remedy.spelling ++ context) ∧
      (tokens.getD error.position Token.eof).kind ≠ error.reason.remedy ∧
      (∀ token : Token, token.kind = error.reason.remedy →
        ∃ more node, parse (tokens.take error.position ++ token :: more) = .ok node) ∧
      (error.reason = .braceAfterStatements →
        (tokens.getD error.position Token.eof).kind = .eof) ∧
      (error.reason = .tooDeep → (tokens.getD error.position Token.eof).kind = .ifWord ∧
        opened (tokens.take error.position) = maxNesting) := by
  obtain ⟨read, rest, refused⟩ := refused_of_parse_error rejected
  obtain ⟨possible, unclosed, full⟩ := site_of_parse_error rejected
  have other := refused.other
  rw [refused.first_rest] at other
  have repair := refused.repair
  rw [← refused.take_position] at repair
  exact ⟨message_mem_messages possible, Reason.message_names, other, repair, unclosed, full⟩

theorem error_repairable_unclosed :
    let tokens : List Token :=
      [⟨.ifWord, "if"⟩, ⟨.lparen, "("⟩, ⟨.identifier, "a"⟩, ⟨.rparen, ")"⟩, ⟨.lbrace, "\x7b"⟩,
        ⟨.identifier, "b"⟩, ⟨.assign, "="⟩, ⟨.number, "1"⟩, ⟨.semicolon, ";"⟩]
    parse tokens = .error ⟨.braceAfterStatements, "", 9⟩ ∧
      Reason.braceAfterStatements.message ∈ messages ∧
      (tokens.getD 9 Token.eof).kind = .eof ∧
      ∀ text, ∃ more node, parse (tokens ++ ⟨.rbrace, text⟩ :: more) = .ok node := by
  intro tokens
  have rejected : parse tokens = .error ⟨.braceAfterStatements, "", 9⟩ := rfl
  obtain ⟨message, -, -, repair, unclosed, -⟩ := error_repairable rejected
  exact ⟨rejected, message, unclosed rfl, fun text => repair ⟨.rbrace, text⟩ rfl⟩

end Program
end StatementParser
