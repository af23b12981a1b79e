import StatementParser.Node.Basic

/-!
Trees are put together by hand on a stack of nodes, the top first. A step that finds too few nodes,
or no child at the index it asks for, is refused and leaves the stack as it was.
-/
namespace StatementParser.Node

inductive Step where
  | make (kind : Kind) (text : Option String) (count : Nat)
  | leaf (kind : Kind) (text : String)
  | identifier (text : String)
  | number (text : String)
  | statements (count : Nat)
  | binary (kind : Kind) (operator : String)
  | duplicate
  | drop
  | swap
  | child (index : Nat)
  | setText (text : Option String)
  | setKind (kind : Kind)
  | append
  deriving DecidableEq, Repr

inductive Step.Fault where
  | underflow
  | noChild
  deriving DecidableEq, Repr

abbrev Stack := List Node

namespace Stack

/-- The top nodes in the order in which they were pushed, and the stack below them. -/
def gather (count : Nat) (stack : Stack) : Except Step.Fault (List Node × Stack) :=
  if count ≤ stack.length then .ok ((stack.take count).reverse, stack.drop count)
  else .error .underflow

def top : Stack → Except Step.Fault Node
  | [] => .error .underflow
  | node :: _ => .ok node

def topsEqual : Stack → Except Step.Fault Bool
  | first :: second :: _ => .ok (decide (first = second))
  | _ => .error .underflow

def apply : Step → Stack → Except Step.Fault Stack
  | .make kind text count, stack => do
    let (children, below) ← gather count stack
    pure (⟨kind, text, children⟩ :: below)
  | .leaf kind text, stack => pure (Node.leaf kind text :: stack)
  | .identifier text, stack => pure (Node.identifier text :: stack)
  | .number text, stack => pure (Node.number text :: stack)
  | .statements count, stack => do
    let (children, below) ← gather count stack
    pure (Node.statements children :: below)
  | .binary kind operator, right :: left :: below =>
    pure (Node.binary kind operator left right :: below)
  | .duplicate, node :: below => pure (node :: node :: below)
  | .drop, _ :: below => pure below
  | .swap, first :: second :: below => pure (second :: first :: below)
  | .child index, node :: below =>
    match node.children[index]? with
    | some child => pure (child :: below)
    | none => .error .noChild
  | .setText text, node :: below => pure ({ node with text } :: below)
  | .setKind kind, node :: below => pure ({ node with kind } :: below)
  | .append, last :: node :: below =>
    pure ({ node with children := node.children ++ [last] } :: below)
  | _, _ => .error .underflow

end Stack
end StatementParser.Node
