import StatementParser.Proofs.Node.Tokens

/-!
The trees that are programs. Chains of terms lean to the left, an equality stands only at the root
of a condition, and bodies are lists of statements. How deep conditionals stand inside each other is
measured apart from the shape.
-/
namespace StatementParser.Node

inductive Leaf : Node → Prop where
  | identifier (text : String) : Leaf (.identifier text)
  | number (text : String) : Leaf (.number text)

/-- Terms joined by plus and minus, with a leaf on the right of every sign. -/
inductive Arithmetic : Node → Prop where
  | leaf {node : Node} (single : Leaf node) : Arithmetic node
  | plus (operator : String) {left right : Node} (before : Arithmetic left) (last : Leaf right) :
      Arithmetic (binary .plus operator left right)
  | minus (operator : String) {left right : Node} (before : Arithmetic left) (last : Leaf right) :
      Arithmetic (binary .minus operator left right)

inductive Condition : Node → Prop where
  | value {node : Node} (arithmetic : Arithmetic node) : Condition node
  | equal (operator : String) {left right : Node} (before : Arithmetic left)
      (behind : Arithmetic right) : Condition (binary .equal operator left right)

inductive Statement : Node → Prop where
  | declaration (keyword name : String) :
      Statement ⟨.declaration, some keyword, [identifier name]⟩
  | assignment (operator name : String) {value : Node} (arithmetic : Arithmetic value) :
      Statement ⟨.assignment, some operator, [identifier name, value]⟩
  | conditional (keyword : String) {test : Node} {body : List Node} (condition : Condition test)
      (all : ∀ node ∈ body, Statement node) :
      Statement ⟨.conditional, some keyword, [test, statements body]⟩

def WellFormed (node : Node) : Prop :=
  ∃ body, node = statements body ∧ ∀ inner ∈ body, Statement inner

mutual

/-- How many conditionals a path from the root downwards meets at most. -/
def nesting : Node → Nat
  | ⟨kind, _, children⟩ => nestingAll children + if kind = .conditional then 1 else 0

def nestingAll : List Node → Nat
  | [] => 0
  | node :: rest => max (nesting node) (nestingAll rest)

end

theorem nestingAll_le_iff {body : List Node} {bound : Nat} :
    nestingAll body ≤ bound ↔ ∀ node ∈ body, node.nesting ≤ bound := by
  induction body with
  | nil => simp [nestingAll]
  | cons node body ih => rw [nestingAll, Nat.max_le, ih, List.forall_mem_cons]

@[simp] theorem nesting_statements (body : List Node) :
    (statements body).nesting = nestingAll body := rfl

theorem Leaf.nesting {node : Node} (single : Leaf node) : node.nesting = 0 := by
  cases single <;> rfl

theorem Arithmetic.nesting {node : Node} (arithmetic : Arithmetic node) : node.nesting = 0 := by
  induction arithmetic with
  | leaf single => exact single.nesting
  | plus operator before last ih =>
    simp [binary, Node.nesting, nestingAll, ih, last.nesting]
  | minus operator before last ih =>
    simp [binary, Node.nesting, nestingAll, ih, last.nesting]

theorem Condition.nesting {node : Node} (condition : Condition node) : node.nesting = 0 := by
  cases condition with
  | value arithmetic => exact arithmetic.nesting
  | equal operator before behind =>
    simp [binary, Node.nesting, nestingAll, before.nesting, behind.nesting]

theorem nesting_conditional (keyword : String) {test : Node} (body : List Node)
    (condition : Condition test) :
    nesting ⟨.conditional, some keyword, [test, statements body]⟩ = nestingAll body + 1 := by
  simp [Node.nesting, nestingAll, condition.nesting, statements]

theorem nesting_assignment (operator name : String) {value : Node}
    (arithmetic : Arithmetic value) :
    nesting ⟨.assignment, some operator, [identifier name, value]⟩ = 0 := by
  simp [Node.nesting, nestingAll, arithmetic.nesting, identifier, leaf]

end StatementParser.Node
