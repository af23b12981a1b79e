import StatementParser.Node.Basic
import StatementParser.Rule.Basic

/-!
Expressions are chains of terms joined by plus and minus, which share one level and lean to the
left. A condition is an expression, or two of them with one equality sign between.
-/
namespace StatementParser.Rule

def leafKind? : Kind → Option Node.Kind
  | .number => some .number
  | .identifier => some .identifier
  | _ => none

def operatorKind? : Kind → Option Node.Kind
  | .plus => some .plus
  | .minus => some .minus
  | _ => none

theorem kind_ne_eof_of_leafKind? {token : Token} {kind : Node.Kind}
    (found : leafKind? token.kind = some kind) : token.kind ≠ .eof := by
  intro same
  rw [same] at found
  cases found

theorem kind_ne_eof_of_operatorKind? {token : Token} {kind : Node.Kind}
    (found : operatorKind? token.kind = some kind) : token.kind ≠ .eof := by
  intro same
  rw [same] at found
  cases found

def term : Rule Node := do
  match leafKind? (← current).kind with
  | some kind =>
    let token ← take
    pure (.leaf kind token.text)
  | none => refuse .unexpected

/-- Join further terms to what stands on the left. The first argument only bounds the number of
rounds: a list no shorter than the tokens ahead is enough. -/
def chain : List Token → Node → Rule Node
  | [], left => pure left
  | _ :: room, left => do
    match operatorKind? (← current).kind with
    | some kind =>
      let operator ← take
      let right ← term
      chain room (.binary kind operator.text left right)
    | none => pure left

def expression : Rule Node := do
  let left ← term
  let state ← get
  chain state.ahead left

def condition : Rule Node := do
  let left ← expression
  if (← current).kind = .equal then
    let operator ← take
    let right ← expression
    pure (.binary .equal operator.text left right)
  else pure left

end StatementParser.Rule
