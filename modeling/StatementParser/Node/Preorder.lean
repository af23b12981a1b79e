import StatementParser.Node.Basic

/-!
Trees are visited parents first, children from left to right, over a list of nodes still to be
visited, so that the depth of a tree costs no stack. The measure of a tree counts its nodes, its
leaves and its levels.
-/
namespace StatementParser.Node

mutual

def size : Node → Nat
  | ⟨_, _, children⟩ => sizeAll children + 1

def sizeAll : List Node → Nat
  | [] => 0
  | node :: rest => size node + sizeAll rest

end

@[simp] theorem size_eq (node : Node) : size node = sizeAll node.children + 1 := by
  cases node
  simp [size]

@[simp] theorem sizeAll_append (left right : List Node) :
    sizeAll (left ++ right) = sizeAll left + sizeAll right := by
  induction left with
  | nil => simp [sizeAll]
  | cons node left ih => simp only [List.cons_append, sizeAll, ih]; omega

theorem sizeAll_flatMap_children_add_length (level : List Node) :
    sizeAll (level.flatMap children) + level.length = sizeAll level := by
  induction level with
  | nil => simp [sizeAll]
  | cons node rest ih =>
    simp only [List.flatMap_cons, sizeAll_append, sizeAll, size_eq, List.length_cons]
    omega

def visit {α : Type} (step : α → Node → α) : α → List Node → α
  | seen, [] => seen
  | seen, node :: rest => visit step (step seen node) (node.children ++ rest)
termination_by _ pending => sizeAll pending
decreasing_by simp [sizeAll]

def preorder (node : Node) : List Node :=
  (visit (fun seen node => node :: seen) [] [node]).reverse

/-- Count the levels from the given one down to the last that is not empty. -/
def countLevels : Nat → List Node → Nat
  | above, [] => above
  | above, node :: rest => countLevels (above + 1) ((node :: rest).flatMap children)
termination_by _ level => sizeAll level
decreasing_by
  have lower := sizeAll_flatMap_children_add_length (node :: rest)
  simp only [List.length_cons] at lower
  omega

def depth (node : Node) : Nat :=
  countLevels 0 [node]

structure Measure where
  nodes : Nat
  leaves : Nat
  depth : Nat
  deriving DecidableEq, Repr

def measure (node : Node) : Measure :=
  let count := fun (seen : Nat × Nat) (node : Node) =>
    (seen.1 + 1, if node.isLeaf then seen.2 + 1 else seen.2)
  let counted := visit count (0, 0) [node]
  ⟨counted.1, counted.2, node.depth⟩

end StatementParser.Node
