import StatementParser.Node.Preorder

/-!
The one-line form of a tree. A node with children, and every statement list, stands in parentheses
behind its text; any other node is its text alone. `sexpr` says this by recursion, `render` writes
it from left to right over a list of steps, so that the depth of a tree costs no stack, and sees
from the text written so far whether a space is due.
-/
namespace StatementParser.Node

mutual

def sexpr : Node → String
  | ⟨.statements, text, children⟩ => "(" ++ text.getD "statements" ++ sexprAll children ++ ")"
  | ⟨_, text, []⟩ => text.getD ""
  | ⟨_, text, child :: rest⟩ =>
    "(" ++ text.getD "statements" ++ " " ++ sexpr child ++ sexprAll rest ++ ")"

def sexprAll : List Node → String
  | [] => ""
  | node :: rest => " " ++ sexpr node ++ sexprAll rest

end

/-- Only statement lists stand in parentheses without children. -/
def isAtom (node : Node) : Bool :=
  node.isLeaf && node.kind != .statements

def head (node : Node) : String :=
  node.text.getD "statements"

namespace Render

/-- What is still to be written: a node, or a closing parenthesis. -/
inductive Step where
  | enter (node : Node)
  | close

def Step.weight : Step → Nat
  | .enter node => 2 * size node
  | .close => 1

def weight : List Step → Nat
  | [] => 0
  | step :: rest => step.weight + weight rest

@[simp] theorem weight_append (left right : List Step) :
    weight (left ++ right) = weight left + weight right := by
  induction left with
  | nil => simp [weight]
  | cons step left ih => simp only [List.cons_append, weight, ih]; omega

@[simp] theorem weight_enter (nodes : List Node) :
    weight (nodes.map Step.enter) = 2 * sizeAll nodes := by
  induction nodes with
  | nil => simp [weight, sizeAll]
  | cons node rest ih => simp only [List.map_cons, weight, Step.weight, sizeAll, ih]; omega

def separate (out : String) : String :=
  if out.isEmpty then out else out ++ " "

def write : String → List Step → String
  | out, [] => out
  | out, .close :: rest => write (out ++ ")") rest
  | out, .enter node :: rest =>
    if node.isAtom then write (separate out ++ node.textOrEmpty) rest
    else
      write (separate out ++ "(" ++ node.head) (node.children.map Step.enter ++ .close :: rest)
termination_by _ pending => weight pending
decreasing_by all_goals simp [weight, Step.weight]; try omega

end Render

def render (node : Node) : String :=
  Render.write "" [.enter node]

end StatementParser.Node
