import StatementParser.Rule.Expression

/-!
Statements are declarations, assignments and conditionals, told apart by their first token. A
conditional holds a block of statements in braces; how deep conditionals may stand inside each other
is a parameter, and without one there is no limit.
-/
namespace StatementParser.Rule

def declaration : Rule Node := do
  let keyword ← take
  let name ← expect .identifier .identifierAfterInt
  let _ ← expect .semicolon .semicolonAfterDeclaration
  pure ⟨.declaration, some keyword.text, [.identifier name]⟩

def assignment : Rule Node := do
  let name ← expect .identifier .identifier
  let operator ← expect .assign .assignAfterIdentifier
  let value ← expression
  let _ ← expect .semicolon .semicolonAfterExpression
  pure ⟨.assignment, some operator, [.identifier name, value]⟩

def tooDeep (limit : Option Nat) (state : State) : Bool :=
  limit = some state.depth

/-- Read a conditional whose block is read by the given rule. -/
def conditional (limit : Option Nat) (block : Rule Node) : Rule Node := do
  if tooDeep limit (← get) then refuse .tooDeep
  else
    let keyword ← take
    let _ ← expect .lparen .parenAfterIf
    let test ← condition
    let _ ← expect .rparen .parenAfterCondition
    let _ ← expect .lbrace .braceAfterCondition
    let body ← nested block
    let _ ← expect .rbrace .braceAfterStatements
    pure ⟨.conditional, some keyword.text, [test, body]⟩

def statement (limit : Option Nat) (block : Rule Node) : Rule Node := do
  announce
  match (← current).kind with
  | .intWord => declaration
  | .identifier => assignment
  | .ifWord => conditional limit block
  | _ => refuse .unexpected

/-- Read statements up to a token of the closing kind or the end of the input and put them behind
those already read, latest first. The list of tokens only bounds the number of rounds: one no
shorter than the tokens ahead is enough. -/
def statementsAfter (limit : Option Nat) : List Token → Kind → List Node → Rule Node
  | [], _, done => pure (.statements done.reverse)
  | _ :: room, close, done => do
    let kind := (← current).kind
    if kind = close ∨ kind = .eof then pure (.statements done.reverse)
    else
      let node ← statement limit (statementsAfter limit room .rbrace [])
      statementsAfter limit room close (node :: done)

def statements (limit : Option Nat) (close : Kind) : Rule Node := do
  let state ← get
  statementsAfter limit state.ahead close []

end StatementParser.Rule
