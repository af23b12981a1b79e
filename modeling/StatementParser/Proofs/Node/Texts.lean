import StatementParser.Proofs.Node.Legible
import StatementParser.Proofs.Node.Places

/-!
Where the texts of a tree come from and where they go. The text of every node of a program is that
of one of its tokens, of the kind that gives such a node its text; and what is printed for a tree is
put together from the texts of its nodes, marks, and the one word of statement lists.
-/
namespace StatementParser.Node

/-- The kind of the tokens that give nodes of a kind their text. -/
def Kind.source? : Node.Kind → Option StatementParser.Kind
  | .statements => none
  | .declaration => some .intWord
  | .assignment => some .assign
  | .conditional => some .ifWord
  | .plus => some .plus
  | .minus => some .minus
  | .equal => some .equal
  | .identifier => some .identifier
  | .number => some .number

/-- The texts of all nodes of the tree are found in its source, with the tokens that they come from.
-/
def Traced (node : Node) : Prop :=
  ∀ inner ∈ node.preorder, ∀ text, inner.text = some text →
    ∃ token ∈ node.tokens, token.text = text ∧ inner.kind.source? = some token.kind

theorem traced_mk {node : Node}
    (own : ∀ text, node.text = some text →
      ∃ token ∈ node.tokens, token.text = text ∧ node.kind.source? = some token.kind)
    (inner : ∀ child ∈ node.children, Traced child ∧ child.tokens ⊆ node.tokens) :
    Traced node := by
  intro below member text found
  rw [preorder_eq, List.mem_cons] at member
  rcases member with rfl | member
  · exact own text found
  · obtain ⟨child, among, member⟩ := List.mem_flatMap.mp member
    obtain ⟨traced, part⟩ := inner child among
    obtain ⟨token, holds, same, kind⟩ := traced below member text found
    exact ⟨token, part holds, same, kind⟩

theorem traced_of_token {kind : Node.Kind} {text : String} {children : List Node}
    {source : StatementParser.Kind} (given : kind.source? = some source)
    (own : Token.mk source text ∈ tokens ⟨kind, some text, children⟩)
    (inner : ∀ child ∈ children, Traced child ∧ child.tokens ⊆ tokens ⟨kind, some text, children⟩) :
    Traced ⟨kind, some text, children⟩ := by
  apply traced_mk
  · intro other same
    cases same
    exact ⟨⟨source, text⟩, own, rfl, given⟩
  · exact inner

theorem traced_of_leaf {node : Node} (single : Leaf node) : Traced node := by
  cases single with
  | identifier text => exact traced_of_token rfl List.mem_cons_self (by simp)
  | number text => exact traced_of_token rfl List.mem_cons_self (by simp)

theorem traced_binary {kind : Node.Kind} {source : StatementParser.Kind} {operator : String}
    {left right : Node} (given : kind.source? = some source)
    (spelt : (binary kind operator left right).tokens =
      left.tokens ++ ⟨source, operator⟩ :: right.tokens)
    (before : Traced left) (behind : Traced right) : Traced (binary kind operator left right) := by
  unfold binary at spelt ⊢
  apply traced_of_token given
  · rw [spelt]
    exact List.mem_append_right _ List.mem_cons_self
  · rw [spelt]
    simp only [List.forall_mem_cons]
    refine ⟨⟨before, List.subset_append_left _ _⟩, ⟨behind, ?_⟩, by simp⟩
    exact List.subset_append_of_subset_right _ (List.subset_cons_self _ _)

theorem traced_of_arithmetic {node : Node} (arithmetic : Arithmetic node) : Traced node := by
  induction arithmetic with
  | leaf single => exact traced_of_leaf single
  | plus operator before last ih => exact traced_binary rfl rfl ih (traced_of_leaf last)
  | minus operator before last ih => exact traced_binary rfl rfl ih (traced_of_leaf last)

theorem traced_of_condition {node : Node} (condition : Condition node) : Traced node := by
  cases condition with
  | value arithmetic => exact traced_of_arithmetic arithmetic
  | equal operator before behind =>
    exact traced_binary rfl rfl (traced_of_arithmetic before) (traced_of_arithmetic behind)

theorem traced_statements {body : List Node} (each : ∀ node ∈ body, Traced node) :
    Traced (statements body) := by
  apply traced_mk
  · intro text found
    cases found
  · intro child member
    refine ⟨each child member, ?_⟩
    rw [tokens_statements]
    exact fun token inside => List.mem_flatMap.mpr ⟨child, member, inside⟩

theorem traced_of_statement {node : Node} (statement : Statement node) : Traced node := by
  induction statement with
  | declaration keyword name =>
    apply traced_of_token rfl List.mem_cons_self
    simp only [List.forall_mem_cons]
    refine ⟨⟨traced_of_leaf (.identifier name), ?_⟩, by simp⟩
    rw [tokens_declaration]
    exact fun token inside => List.mem_append_left _ (List.mem_cons_of_mem _ inside)
  | @assignment operator name value arithmetic =>
    apply traced_of_token rfl
    · simp
    · simp only [List.forall_mem_cons, tokens_assignment]
      refine ⟨⟨traced_of_leaf (.identifier name), ?_⟩, ⟨traced_of_arithmetic arithmetic, ?_⟩, by simp⟩
      · intro token inside
        simp only [List.mem_append, inside, true_or]
      · intro token inside
        simp only [List.mem_append, List.mem_cons, inside, true_or, or_true]
  | @conditional keyword test body condition all ih =>
    apply traced_of_token rfl List.mem_cons_self
    simp only [List.forall_mem_cons, tokens_conditional]
    refine ⟨⟨traced_of_condition condition, ?_⟩, ⟨traced_statements ih, ?_⟩, by simp⟩
    · intro token inside
      simp only [List.mem_append, List.mem_cons, inside, true_or, or_true]
    · intro token inside
      simp only [List.mem_append, List.mem_cons, inside, true_or, or_true]

theorem traced_of_wellFormed {node : Node} (formed : WellFormed node) : Traced node := by
  obtain ⟨body, rfl, all⟩ := formed
  exact traced_statements fun inner member => traced_of_statement (all inner member)

theorem Kind.not_punctuation {kind : Node.Kind} {source : StatementParser.Kind}
    (given : kind.source? = some source) : source.isPunctuation = false := by
  cases kind <;> cases given <;> rfl

theorem exists_token_of_written {node : Node} (formed : WellFormed node) {read : List Token}
    (written : Written node read) {inner : Node} (member : inner ∈ node.preorder) {text : String}
    (found : inner.text = some text) :
    ∃ token ∈ read, token.text = text ∧ inner.kind.source? = some token.kind := by
  obtain ⟨plain, inside, same, given⟩ := traced_of_wellFormed formed inner member text found
  rw [← written] at inside
  obtain ⟨token, holds, rfl⟩ := List.mem_map.mp inside
  rw [Token.kind_plain] at given
  rw [Token.plain_of_kind rfl (Kind.not_punctuation given)] at same
  exact ⟨token, holds, same, given⟩

def Free (c : Char) (nodes : List Node) : Prop :=
  ∀ node ∈ nodes, ∀ text, node.text = some text → c ∉ text.toList

mutual

theorem not_mem_sexpr {c : Char} (plain : isMark c = false) (other : c ∉ "statements".toList) :
    ∀ node : Node, Free c node.preorder → c ∉ node.sexpr.toList
  | ⟨kind, text, children⟩, free => by
    rw [preorder_eq, Free, List.forall_mem_cons] at free
    obtain ⟨own, below⟩ := free
    have inner := not_mem_sexprAll plain other children below
    simp only [isMark, Bool.or_eq_false_iff, decide_eq_false_iff_not] at plain
    obtain ⟨⟨-, opening⟩, closing⟩ := plain
    by_cases atom : isAtom ⟨kind, text, children⟩ = true
    · rw [sexpr_of_atom atom]
      cases text with
      | none => simp [textOrEmpty]
      | some text => exact own text rfl
    · have word : c ∉ (head ⟨kind, text, children⟩).toList := by
        cases text with
        | none => exact other
        | some text => exact own text rfl
      simp [sexpr_of_compound atom, opening, closing, word, inner]

theorem not_mem_sexprAll {c : Char} (plain : isMark c = false) (other : c ∉ "statements".toList) :
    ∀ nodes : List Node, Free c (nodes.flatMap preorder) → c ∉ (sexprAll nodes).toList
  | [], _ => by simp [sexprAll]
  | node :: rest, free => by
    rw [List.flatMap_cons, Free, List.forall_mem_append] at free
    have first := not_mem_sexpr plain other node free.1
    have others := not_mem_sexprAll plain other rest free.2
    simp only [isMark, Bool.or_eq_false_iff, decide_eq_false_iff_not] at plain
    obtain ⟨⟨space, -⟩, -⟩ := plain
    simp [sexprAll, space, first, others]

end

end StatementParser.Node
