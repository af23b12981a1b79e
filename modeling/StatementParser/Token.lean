/-!
Tokens are pairs of a kind and a text. A kind is written by its name in listings, and every kind but
identifier and number has a text of its own that a listing may leave out.
-/
namespace StatementParser

inductive Kind where
  | intWord
  | ifWord
  | identifier
  | number
  | assign
  | plus
  | minus
  | equal
  | lparen
  | rparen
  | lbrace
  | rbrace
  | semicolon
  | eof
  deriving DecidableEq, Repr, Inhabited

namespace Kind

def all : List Kind :=
  [.intWord, .ifWord, .identifier, .number, .assign, .plus, .minus, .equal, .lparen, .rparen,
   .lbrace, .rbrace, .semicolon, .eof]

def name : Kind → String
  | .intWord => "int"
  | .ifWord => "if"
  | .identifier => "identifier"
  | .number => "number"
  | .assign => "assign"
  | .plus => "plus"
  | .minus => "minus"
  | .equal => "equal"
  | .lparen => "lparen"
  | .rparen => "rparen"
  | .lbrace => "lbrace"
  | .rbrace => "rbrace"
  | .semicolon => "semicolon"
  | .eof => "eof"

def lexeme? : Kind → Option String
  | .intWord => some "int"
  | .ifWord => some "if"
  | .identifier => none
  | .number => none
  | .assign => some "="
  | .plus => some "+"
  | .minus => some "-"
  | .equal => some "=="
  | .lparen => some "("
  | .rparen => some ")"
  | .lbrace => some "\x7b"
  | .rbrace => some "\x7d"
  | .semicolon => some ";"
  | .eof => some ""

def ofName? (name : String) : Option Kind :=
  all.find? fun kind => kind.name == name

def unknownMessage (name : String) : String :=
  "unknown token kind '" ++ name ++ "'"

theorem ofName?_name (kind : Kind) : ofName? kind.name = some kind := by
  cases kind <;> decide

theorem name_injective {left right : Kind} (same : left.name = right.name) : left = right := by
  have found := ofName?_name left
  rw [same, ofName?_name right] at found
  exact (Option.some.inj found).symm

theorem ofName?_eq_some_iff {text : String} {kind : Kind} :
    ofName? text = some kind ↔ text = kind.name := by
  constructor
  · intro found
    have holds := List.find?_some found
    exact (beq_iff_eq.mp holds).symm
  · rintro rfl
    exact ofName?_name kind

end Kind

structure Token where
  kind : Kind
  text : String
  deriving DecidableEq, Repr, Inhabited

namespace Token

/-- A token with the text of its kind, empty for identifiers and numbers. -/
def symbol (kind : Kind) : Token :=
  ⟨kind, kind.lexeme?.getD ""⟩

def eof : Token :=
  symbol .eof

def isEof (token : Token) : Bool :=
  token.kind = .eof

end Token
end StatementParser
