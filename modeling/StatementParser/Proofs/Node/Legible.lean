import StatementParser.Proofs.Node.Rendering
import StatementParser.Proofs.Text.Cut

/-!
Trees whose one-line form can be read back. Every phrase has the text of its kind, and the texts of
the leaves hold no space and no parenthesis, so a form falls apart into the same words and phrases
however it is read. Only the kinds of the leaves are not to be seen.
-/
namespace StatementParser.Node

def Kind.lexeme? : Kind → Option String
  | .declaration => some "int"
  | .assignment => some "="
  | .conditional => some "if"
  | .plus => some "+"
  | .minus => some "-"
  | .equal => some "=="
  | .statements => none
  | .identifier => none
  | .number => none

def Kind.isTerm : Kind → Bool
  | .identifier | .number => true
  | _ => false

/-- Characters that only stand between the words of a one-line form. -/
def isMark (c : Char) : Bool :=
  c = ' ' || c = '(' || c = ')'

/-- The text is a single word in a one-line form; it may be empty. -/
def Unmarked (text : String) : Prop :=
  ∀ c ∈ text.toList, isMark c = false

theorem unmarked_of_all {text : String} (plain : text.toList.all (fun c => !isMark c) = true) :
    Unmarked text := by
  simpa [Unmarked] using plain

inductive Legible : Node → Prop where
  | term {kind : Kind} {text : String} (single : kind.isTerm = true) (plain : Unmarked text) :
      Legible (leaf kind text)
  | phrase {kind : Kind} {children : List Node} (composed : kind.isTerm = false)
      (filled : kind ≠ .statements → children ≠ []) (all : ∀ child ∈ children, Legible child) :
      Legible ⟨kind, kind.lexeme?, children⟩

mutual

/-- The tree with every leaf that is a number made an identifier. -/
def blurred : Node → Node
  | ⟨kind, text, children⟩ =>
    ⟨if kind = .number ∧ children.isEmpty then .identifier else kind, text, blurredAll children⟩

def blurredAll : List Node → List Node
  | [] => []
  | node :: rest => blurred node :: blurredAll rest

end

theorem blurred_term {kind : Kind} (single : kind.isTerm = true) (text : String) :
    (leaf kind text).blurred = identifier text := by
  cases kind with
  | identifier => rfl
  | number => rfl
  | _ => cases single

theorem blurred_phrase {kind : Kind} (composed : kind.isTerm = false) (text : Option String)
    (children : List Node) :
    blurred ⟨kind, text, children⟩ = ⟨kind, text, blurredAll children⟩ := by
  have other : ¬(kind = .number ∧ children.isEmpty = true) := by
    rintro ⟨rfl, -⟩
    cases composed
  rw [blurred, if_neg other]

def Kind.word (kind : Kind) : String :=
  kind.lexeme?.getD "statements"

theorem Kind.unmarked_word (kind : Kind) : Unmarked kind.word := by
  apply unmarked_of_all
  cases kind <;> rfl

theorem Kind.eq_of_word_eq {left right : Kind} (composed : left.isTerm = false)
    (alsoComposed : right.isTerm = false) (same : left.word = right.word) : left = right := by
  revert composed alsoComposed same
  cases left <;> cases right <;> decide

theorem toList_sexpr_term {kind : Kind} (single : kind.isTerm = true) (text : String) :
    (leaf kind text).sexpr.toList = text.toList := by
  have atom : (leaf kind text).isAtom = true := by
    cases kind with
    | identifier => rfl
    | number => rfl
    | _ => cases single
  rw [sexpr_of_atom atom]
  rfl

theorem not_isAtom_phrase {kind : Kind} {children : List Node}
    (filled : kind ≠ .statements → children ≠ []) (text : Option String) :
    ¬isAtom ⟨kind, text, children⟩ = true := by
  intro atom
  simp only [isAtom, isLeaf, Bool.and_eq_true, List.isEmpty_iff, bne_iff_ne] at atom
  exact filled atom.2 atom.1

theorem toList_sexpr_phrase {kind : Kind} {children : List Node}
    (filled : kind ≠ .statements → children ≠ []) :
    (sexpr ⟨kind, kind.lexeme?, children⟩).toList =
      '(' :: (kind.word.toList ++ ((sexprAll children).toList ++ [')'])) := by
  rw [sexpr_of_compound (not_isAtom_phrase filled _)]
  simp [head, Kind.word]

/-- Such characters may follow a form inside another one. -/
def Closed (rest : List Char) : Prop :=
  ∀ c ∈ rest.head?, c = ' ' ∨ c = ')'

theorem isMark_of_closed {rest : List Char} (closed : Closed rest) :
    ∀ c ∈ rest.head?, isMark c = true := by
  intro c first
  rcases closed c first with rfl | rfl
  · rfl
  · rfl

theorem closed_sexprAll (nodes : List Node) (rest : List Char) :
    Closed ((sexprAll nodes).toList ++ ')' :: rest) := by
  cases nodes with
  | nil => simp [Closed, sexprAll]
  | cons node nodes => simp [Closed, sexprAll]

theorem append_ne_paren_of_unmarked {text : String} (plain : Unmarked text) {rest more : List Char}
    (closed : Closed rest) : text.toList ++ rest ≠ '(' :: more := by
  intro same
  cases word : text.toList with
  | nil =>
    rw [word, List.nil_append] at same
    have first := closed '(' (by rw [same]; rfl)
    revert first
    decide
  | cons c tail =>
    rw [word, List.cons_append] at same
    cases same
    have mark := plain '(' (by rw [word]; exact List.mem_cons_self)
    revert mark
    decide

/-- Wherever the one-line form of the tree is found in front of what may follow it, the tree is
known but for the kinds of its leaves, and so is where its form ends. -/
def Recognised (left : Node) : Prop :=
  ∀ right rest others, Legible right → Closed rest → Closed others →
    left.sexpr.toList ++ rest = right.sexpr.toList ++ others →
      left.blurred = right.blurred ∧ rest = others

theorem recognised_children {left : List Node} (each : ∀ child ∈ left, Recognised child)
    {right : List Node} (legible : ∀ child ∈ right, Legible child) {rest others : List Char}
    (same : (sexprAll left).toList ++ ')' :: rest = (sexprAll right).toList ++ ')' :: others) :
    blurredAll left = blurredAll right ∧ rest = others := by
  induction left generalizing right with
  | nil =>
    cases right with
    | nil =>
      simp only [sexprAll, String.toList_empty, List.nil_append, List.cons.injEq, true_and] at same
      exact ⟨rfl, same⟩
    | cons node right => simp [sexprAll] at same
  | cons child left ih =>
    cases right with
    | nil => simp [sexprAll] at same
    | cons node right =>
      simp only [sexprAll, String.toList_append, List.append_assoc] at same
      have behind := List.append_cancel_left same
      obtain ⟨first, tails⟩ := each child List.mem_cons_self node _ _
        (legible node List.mem_cons_self) (closed_sexprAll left rest) (closed_sexprAll right others)
        behind
      obtain ⟨following, last⟩ := ih (fun inner member => each inner (List.mem_cons_of_mem child member))
        (fun inner member => legible inner (List.mem_cons_of_mem node member)) tails
      exact ⟨by rw [blurredAll, blurredAll, first, following], last⟩

theorem recognised_of_legible {left : Node} (legible : Legible left) : Recognised left := by
  induction legible with
  | term single plain =>
    intro right rest others alsoLegible closed alsoClosed same
    rw [toList_sexpr_term single] at same
    cases alsoLegible with
    | term alsoSingle alsoPlain =>
      rw [toList_sexpr_term alsoSingle] at same
      obtain ⟨texts, rests⟩ := Text.append_inj_of_stop plain (isMark_of_closed closed) alsoPlain
        (isMark_of_closed alsoClosed) same
      rw [blurred_term single, blurred_term alsoSingle, String.toList_inj.mp texts]
      exact ⟨rfl, rests⟩
    | phrase composed filled all =>
      rw [toList_sexpr_phrase filled] at same
      exact absurd same (append_ne_paren_of_unmarked plain closed)
  | @phrase kind children composed filled all ih =>
    intro right rest others alsoLegible closed alsoClosed same
    rw [toList_sexpr_phrase filled] at same
    cases alsoLegible with
    | term alsoSingle alsoPlain =>
      rw [toList_sexpr_term alsoSingle] at same
      exact absurd same.symm (append_ne_paren_of_unmarked alsoPlain alsoClosed)
    | @phrase sort nodes alsoComposed alsoFilled alsoAll =>
      rw [toList_sexpr_phrase alsoFilled] at same
      simp only [List.cons_append, List.append_assoc, List.cons.injEq, true_and,
        List.nil_append] at same
      obtain ⟨words, tails⟩ := Text.append_inj_of_stop kind.unmarked_word
        (isMark_of_closed (closed_sexprAll children rest)) sort.unmarked_word
        (isMark_of_closed (closed_sexprAll nodes others)) same
      obtain rfl := Kind.eq_of_word_eq composed alsoComposed (String.toList_inj.mp words)
      obtain ⟨inner, rests⟩ := recognised_children ih alsoAll tails
      rw [blurred_phrase composed, blurred_phrase composed, inner]
      exact ⟨rfl, rests⟩

end StatementParser.Node
