import StatementParser.Rule.Statement

/-!
A program is a list of statements up to the end of the tokens. Parsing one also tells what happened
on the way: the start of every statement, and at last the number of statements or the failure.
-/
namespace StatementParser.Program

def maxNesting : Nat := 256

structure Outcome where
  result : Except SyntaxError Node
  events : List Event

/-- Parse with conditionals nested no deeper than the limit, if there is one. -/
def parseWithin (limit : Option Nat) (tokens : List Token) : Outcome :=
  match Rule.statements limit .eof (State.start tokens) with
  | .ok program after =>
    ⟨.ok program, (Event.parsed program.children.length :: after.log).reverse⟩
  | .error error after => ⟨.error error, (Event.rejected error :: after.log).reverse⟩

def run (tokens : List Token) : Outcome :=
  parseWithin (some maxNesting) tokens

def parse (tokens : List Token) : Except SyntaxError Node :=
  (run tokens).result

end StatementParser.Program
