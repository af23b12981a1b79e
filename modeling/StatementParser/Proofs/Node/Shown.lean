import StatementParser.Proofs.Node.Texts

/-!
What the nodes of a tree show. Every token of the source that is not punctuation is the text of a
node, and in the tree of a program just the terms are printed without parentheses and just the lists
of statements have no text. So the first word of a phrase is the text of the token it comes from.
-/
namespace StatementParser.Node

theorem mem_preorder (node : Node) : node ∈ node.preorder := by
  rw [preorder_eq]
  exact List.mem_cons_self

theorem mem_preorder_of_child {node child inner : Node} (below : child ∈ node.children)
    (member : inner ∈ child.preorder) : inner ∈ node.preorder := by
  rw [preorder_eq]
  exact List.mem_cons_of_mem _ (List.mem_flatMap.mpr ⟨child, below, member⟩)

mutual

theorem forall_preorder {holds : Node → Prop}
    (step : ∀ node, holds node → ∀ child ∈ node.children, holds child) :
    ∀ node : Node, holds node → ∀ inner ∈ node.preorder, holds inner
  | ⟨kind, text, children⟩, root => by
    rw [preorder_eq, List.forall_mem_cons]
    exact ⟨root, forall_flatMap_preorder step children (step _ root)⟩

theorem forall_flatMap_preorder {holds : Node → Prop}
    (step : ∀ node, holds node → ∀ child ∈ node.children, holds child) :
    ∀ nodes : List Node, (∀ node ∈ nodes, holds node) →
      ∀ inner ∈ nodes.flatMap preorder, holds inner
  | [], _ => by simp
  | node :: rest, all => by
    rw [List.forall_mem_cons] at all
    rw [List.flatMap_cons, List.forall_mem_append]
    exact ⟨forall_preorder step node all.1, forall_flatMap_preorder step rest all.2⟩

end

/-- The nodes that are met in the tree of a program. -/
inductive Part : Node → Prop where
  | condition {node : Node} (condition : Condition node) : Part node
  | statement {node : Node} (statement : Statement node) : Part node
  | statements {body : List Node} (all : ∀ node ∈ body, Statement node) : Part (statements body)

theorem part_of_leaf {node : Node} (single : Leaf node) : Part node :=
  .condition (.value (.leaf single))

theorem part_of_arithmetic {node : Node} (arithmetic : Arithmetic node) : Part node :=
  .condition (.value arithmetic)

theorem part_children_of_arithmetic {node : Node} (arithmetic : Arithmetic node) :
    ∀ child ∈ node.children, Part child := by
  cases arithmetic with
  | leaf single =>
    cases single with
    | identifier text => simp [identifier, leaf]
    | number text => simp [number, leaf]
  | plus operator before last =>
    simp only [binary, List.forall_mem_cons]
    exact ⟨part_of_arithmetic before, part_of_leaf last, by simp⟩
  | minus operator before last =>
    simp only [binary, List.forall_mem_cons]
    exact ⟨part_of_arithmetic before, part_of_leaf last, by simp⟩

theorem Part.children {node : Node} (part : Part node) : ∀ child ∈ node.children, Part child := by
  cases part with
  | condition condition =>
    cases condition with
    | value arithmetic => exact part_children_of_arithmetic arithmetic
    | equal operator before behind =>
      simp only [binary, List.forall_mem_cons]
      exact ⟨part_of_arithmetic before, part_of_arithmetic behind, by simp⟩
  | statement statement =>
    cases statement with
    | declaration keyword name =>
      simp only [List.forall_mem_singleton]
      exact part_of_leaf (.identifier name)
    | assignment operator name arithmetic =>
      simp only [List.forall_mem_cons]
      exact ⟨part_of_leaf (.identifier name), part_of_arithmetic arithmetic, by simp⟩
    | conditional keyword condition all =>
      simp only [List.forall_mem_cons]
      exact ⟨.condition condition, .statements all, by simp⟩
  | statements all => exact fun child member => .statement (all child member)

/-- A node is printed without parentheses just if it is a term, and has no text just if it is a list
of statements. -/
structure Regular (node : Node) : Prop where
  atom : node.isAtom = node.kind.isTerm
  bare : node.text = none ↔ node.kind = .statements

theorem regular_of_arithmetic {node : Node} (arithmetic : Arithmetic node) : Regular node := by
  cases arithmetic with
  | leaf single =>
    cases single with
    | identifier text => exact ⟨rfl, by simp [identifier, leaf]⟩
    | number text => exact ⟨rfl, by simp [number, leaf]⟩
  | plus operator before last => exact ⟨rfl, by simp [binary]⟩
  | minus operator before last => exact ⟨rfl, by simp [binary]⟩

theorem Part.regular {node : Node} (part : Part node) : Regular node := by
  cases part with
  | condition condition =>
    cases condition with
    | value arithmetic => exact regular_of_arithmetic arithmetic
    | equal operator before behind => exact ⟨rfl, by simp [binary]⟩
  | statement statement =>
    cases statement with
    | declaration keyword name => exact ⟨rfl, by simp⟩
    | assignment operator name arithmetic => exact ⟨rfl, by simp⟩
    | conditional keyword condition all => exact ⟨rfl, by simp⟩
  | @statements body all =>
    refine ⟨?_, by simp [Node.statements]⟩
    cases body <;> rfl

theorem regular_of_wellFormed {node : Node} (formed : WellFormed node) :
    ∀ inner ∈ node.preorder, Regular inner := by
  obtain ⟨body, rfl, all⟩ := formed
  intro inner member
  have part : Part inner := forall_preorder (fun _ => Part.children) _ (Part.statements all) inner member
  exact part.regular

theorem mem_layout {kind : Kind} {word : String} {parts : List (List Token)} {token : Token}
    (member : token ∈ layout kind word parts) :
    token.kind.isPunctuation = true ∨ (token.text = word ∧ kind.source? = some token.kind) ∨
      token ∈ parts.flatten := by
  have symbols : ∀ kind : StatementParser.Kind, kind.isPunctuation = true →
      token = .symbol kind → token.kind.isPunctuation = true := by
    rintro kind punctuation rfl
    exact punctuation
  unfold layout at member
  split at member <;> grind [Kind.source?, StatementParser.Kind.isPunctuation]

mutual

theorem exists_shown {token : Token} (kept : token.kind.isPunctuation = false) :
    ∀ node : Node, token ∈ node.tokens →
      ∃ inner ∈ node.preorder, inner.textOrEmpty = token.text ∧
        inner.kind.source? = some token.kind
  | ⟨kind, text, children⟩, member => by
    rw [tokens] at member
    rw [preorder_eq]
    rcases mem_layout member with punctuation | ⟨same, given⟩ | inside
    · rw [kept] at punctuation
      cases punctuation
    · exact ⟨⟨kind, text, children⟩, List.mem_cons_self, same.symm, given⟩
    · obtain ⟨inner, below, shown⟩ := exists_shownAll kept children inside
      exact ⟨inner, List.mem_cons_of_mem _ below, shown⟩

theorem exists_shownAll {token : Token} (kept : token.kind.isPunctuation = false) :
    ∀ nodes : List Node, token ∈ (tokensAll nodes).flatten →
      ∃ inner ∈ nodes.flatMap preorder, inner.textOrEmpty = token.text ∧
        inner.kind.source? = some token.kind
  | [], member => by cases member
  | node :: rest, member => by
    rw [tokensAll, List.flatten_cons, List.mem_append] at member
    rw [List.flatMap_cons]
    rcases member with first | behind
    · obtain ⟨inner, below, shown⟩ := exists_shown kept node first
      exact ⟨inner, List.mem_append_left _ below, shown⟩
    · obtain ⟨inner, below, shown⟩ := exists_shownAll kept rest behind
      exact ⟨inner, List.mem_append_right _ below, shown⟩

end

theorem Kind.eq_of_source?_eq {left right : Kind} {source : StatementParser.Kind}
    (given : left.source? = some source) (alsoGiven : right.source? = some source) :
    left = right := by
  revert given alsoGiven
  cases left <;> cases right <;> cases source <;> decide

theorem Kind.exists_source {kind : Kind} (composed : kind.isTerm = false) (other : kind ≠ .statements) :
    ∃ source lexeme, kind.source? = some source ∧ kind.lexeme? = some lexeme := by
  cases kind with
  | statements => exact absurd rfl other
  | identifier => cases composed
  | number => cases composed
  | _ => exact ⟨_, _, rfl, rfl⟩

theorem Kind.lexeme?_of_source? {kind : Kind} {source : StatementParser.Kind}
    (given : kind.source? = some source) : kind.lexeme? = source.lexeme? := by
  cases kind <;> cases given <;> rfl

end StatementParser.Node
