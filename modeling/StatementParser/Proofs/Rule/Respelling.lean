import StatementParser.Proofs.Node.Respelling
import StatementParser.Rule.Statement

/-!
Rules never look at a text. Over tokens with other texts every rule does the same as before, up to the
texts that it hands on: those of the nodes it builds, and the one it shows where it fails. A synthetic
`eof` behind the last token has no text to change, so a token is only taken where one is left.
-/
namespace StatementParser

variable {spelling : Spelling}

def State.respell (spelling : Spelling) (state : State) : State :=
  { state with ahead := state.ahead.map (Token.respell spelling) }

theorem State.kind_current_respell (spelling : Spelling) (state : State) :
    (state.respell spelling).current.kind = state.current.kind := by
  obtain ⟨position, ahead, depth, log⟩ := state
  cases ahead with
  | nil => rfl
  | cons token rest => rfl

theorem State.current_respell {state : State} (more : state.current.kind ≠ .eof) :
    (state.respell spelling).current = state.current.respell spelling := by
  obtain ⟨position, ahead, depth, log⟩ := state
  cases ahead with
  | nil => exact absurd rfl more
  | cons token rest => rfl

theorem State.next_respell (spelling : Spelling) (state : State) :
    (state.respell spelling).next = state.next.respell spelling := by
  obtain ⟨position, ahead, depth, log⟩ := state
  cases ahead with
  | nil => rfl
  | cons token rest => rfl

namespace Rule

variable {α β γ δ : Type}

/-- The outcome over the respelt tokens, from the outcome over those given. A failure shows the text
that its token now has. -/
def respelt (spelling : Spelling) (image : α → β) :
    EStateM.Result SyntaxError State α → EStateM.Result SyntaxError State β
  | .ok value after => .ok (image value) (after.respell spelling)
  | .error error after =>
    .error ⟨error.reason, (after.respell spelling).current.text, error.position⟩
      (after.respell spelling)

/-- From this state the second rule does over respelt tokens what the first one does over those
given. -/
def Follows (spelling : Spelling) (image : α → β) (rule : Rule α) (other : Rule β)
    (state : State) : Prop :=
  other.run (state.respell spelling) = respelt spelling image (rule.run state)

variable {image : α → β} {last : γ → δ} {rule : Rule α} {other : Rule β} {state : State}

theorem follows_bind {next : α → Rule γ} {more : β → Rule δ}
    (head : Follows spelling image rule other state)
    (tail : ∀ value middle, rule.run state = .ok value middle →
      Follows spelling last (next value) (more (image value)) middle) :
    Follows spelling last (rule >>= next) (other >>= more) state := by
  unfold Follows at head ⊢
  rw [EStateM.run_bind, EStateM.run_bind, head]
  cases run : rule.run state with
  | ok value middle => exact tail value middle run
  | error error after => rfl

theorem follows_pure {value : α} {result : β} (same : result = image value) (state : State) :
    Follows spelling image (pure value) (pure result) state := by
  rw [same]
  rfl

theorem follows_refuse (reason : Reason) (state : State) :
    Follows spelling image (refuse reason) (refuse reason) state := rfl

theorem follows_announce (state : State) : Follows spelling id announce announce state := by
  unfold Follows
  rw [run_announce, run_announce, State.kind_current_respell]
  rfl

theorem follows_take (more : state.current.kind ≠ .eof) :
    Follows spelling (Token.respell spelling) take take state := by
  unfold Follows
  rw [run_take, run_take, State.current_respell more, State.next_respell]
  rfl

theorem follows_get {next : State → Rule γ} {more : State → Rule δ}
    (tail : Follows spelling last (next state) (more (state.respell spelling)) state) :
    Follows spelling last (get >>= next) (get >>= more) state := tail

theorem follows_current {next : Token → Rule γ} {more : Token → Rule δ}
    (tail : Follows spelling last (next state.current) (more (state.respell spelling).current) state) :
    Follows spelling last (current >>= next) (current >>= more) state := tail

theorem follows_expect {kind : Kind} (reason : Reason) (inner : kind ≠ .eof) (state : State) :
    Follows spelling (spelling kind) (expect kind reason) (expect kind reason) state := by
  apply follows_current
  rw [State.kind_current_respell]
  by_cases same : state.current.kind = kind
  · rw [if_pos same]
    have more : state.current.kind ≠ .eof := by rwa [same]
    apply follows_bind (follows_take more)
    intro token middle taken
    cases taken
    exact follows_pure (by rw [← same]; rfl) _
  · rw [if_neg same]
    exact follows_refuse reason state

theorem follows_nested
    (inner : Follows spelling image rule other { state with depth := state.depth + 1 }) :
    Follows spelling image (nested rule) (nested other) state := by
  have deeper : other.run { state.respell spelling with depth := (state.respell spelling).depth + 1 } =
      respelt spelling image (rule.run { state with depth := state.depth + 1 }) := inner
  unfold Follows
  rw [run_nested, run_nested, deeper]
  cases rule.run { state with depth := state.depth + 1 } with
  | ok value after => rfl
  | error error after => rfl

theorem follows_term (state : State) : Follows spelling (Node.respell spelling) term term state := by
  apply follows_current
  rw [State.kind_current_respell]
  cases found : leafKind? state.current.kind with
  | none => exact follows_refuse .unexpected state
  | some kind =>
    apply follows_bind (follows_take (kind_ne_eof_of_leafKind? found))
    intro token middle taken
    cases taken
    exact follows_pure (Node.respell_leaf_of_leafKind? spelling found).symm _

theorem follows_chain (room : List Token) (left : Node) (state : State) :
    Follows spelling (Node.respell spelling) (chain room left)
      (chain (room.map (Token.respell spelling)) (left.respell spelling)) state := by
  induction room generalizing left state with
  | nil => exact follows_pure rfl state
  | cons bound room ih =>
    apply follows_current
    rw [State.kind_current_respell]
    cases found : operatorKind? state.current.kind with
    | none => exact follows_pure rfl state
    | some kind =>
      apply follows_bind (follows_take (kind_ne_eof_of_operatorKind? found))
      intro operator middle taken
      cases taken
      apply follows_bind (follows_term _)
      intro right after read
      rw [← Node.respell_binary_of_operatorKind? spelling found]
      exact ih _ after

theorem follows_expression (state : State) :
    Follows spelling (Node.respell spelling) expression expression state := by
  apply follows_bind (follows_term state)
  intro left middle read
  exact follows_get (follows_chain middle.ahead left middle)

theorem follows_condition (state : State) :
    Follows spelling (Node.respell spelling) condition condition state := by
  apply follows_bind (follows_expression state)
  intro left middle read
  apply follows_current
  rw [State.kind_current_respell]
  by_cases same : middle.current.kind = .equal
  · rw [if_pos same, if_pos same]
    apply follows_bind (follows_take (by simp [same]))
    intro operator after taken
    cases taken
    apply follows_bind (follows_expression _)
    intro right last done
    exact follows_pure (by rw [Token.respell, same]; rfl) last
  · rw [if_neg same, if_neg same]
    exact follows_pure rfl middle

theorem follows_declaration (begins : state.current.kind = .intWord) :
    Follows spelling (Node.respell spelling) declaration declaration state := by
  apply follows_bind (follows_take (by simp [begins]))
  intro keyword first taken
  cases taken
  apply follows_bind (follows_expect _ (by decide) _)
  intro name second named
  apply follows_bind (follows_expect _ (by decide) _)
  intro semicolon third ended
  exact follows_pure (by rw [Token.respell, begins]; rfl) third

theorem follows_assignment (state : State) :
    Follows spelling (Node.respell spelling) assignment assignment state := by
  apply follows_bind (follows_expect _ (by decide) state)
  intro name first named
  apply follows_bind (follows_expect _ (by decide) first)
  intro operator second assigned
  apply follows_bind (follows_expression second)
  intro value third read
  apply follows_bind (follows_expect _ (by decide) third)
  intro semicolon fourth ended
  exact follows_pure rfl fourth

theorem follows_conditional (limit : Option Nat) {block alike : Rule Node}
    (begins : state.current.kind = .ifWord)
    (inner : ∀ state, Follows spelling (Node.respell spelling) block alike state) :
    Follows spelling (Node.respell spelling) (conditional limit block) (conditional limit alike)
      state := by
  apply follows_get
  have depths : tooDeep limit (state.respell spelling) = tooDeep limit state := rfl
  rw [depths]
  by_cases deep : tooDeep limit state = true
  · rw [if_pos deep, if_pos deep]
    exact follows_refuse .tooDeep state
  · rw [if_neg deep, if_neg deep]
    apply follows_bind (follows_take (by simp [begins]))
    intro keyword first taken
    cases taken
    apply follows_bind (follows_expect _ (by decide) _)
    intro opening second opened
    apply follows_bind (follows_condition second)
    intro test third read
    apply follows_bind (follows_expect _ (by decide) third)
    intro closing fourth closed
    apply follows_bind (follows_expect _ (by decide) fourth)
    intro begun fifth entered
    apply follows_bind (follows_nested (inner _))
    intro body sixth held
    apply follows_bind (follows_expect _ (by decide) sixth)
    intro ended seventh left
    exact follows_pure (by rw [Token.respell, begins]; rfl) seventh

theorem follows_statement (limit : Option Nat) {block alike : Rule Node}
    (inner : ∀ state, Follows spelling (Node.respell spelling) block alike state) (state : State) :
    Follows spelling (Node.respell spelling) (statement limit block) (statement limit alike)
      state := by
  apply follows_bind (follows_announce state)
  intro told middle announced
  cases announced
  apply follows_current
  rw [State.kind_current_respell]
  split
  next begins => exact follows_declaration begins
  next => exact follows_assignment _
  next begins => exact follows_conditional limit begins inner
  next => exact follows_refuse .unexpected _

theorem follows_statementsAfter (limit : Option Nat) (room : List Token) (close : Kind)
    (done : List Node) (state : State) :
    Follows spelling (Node.respell spelling) (statementsAfter limit room close done)
      (statementsAfter limit (room.map (Token.respell spelling)) close
        (done.map (Node.respell spelling))) state := by
  induction room generalizing close done state with
  | nil =>
    apply follows_pure
    rw [Node.respell_statements, List.map_reverse]
  | cons bound room ih =>
    apply follows_current
    dsimp only
    rw [State.kind_current_respell]
    by_cases stop : state.current.kind = close ∨ state.current.kind = .eof
    · rw [if_pos stop, if_pos stop]
      apply follows_pure
      rw [Node.respell_statements, List.map_reverse]
    · rw [if_neg stop, if_neg stop]
      apply follows_bind (follows_statement limit (ih .rbrace []) state)
      intro node middle read
      exact ih close (node :: done) middle

theorem follows_statements (limit : Option Nat) (close : Kind) (state : State) :
    Follows spelling (Node.respell spelling) (statements limit close) (statements limit close) state :=
  follows_get (follows_statementsAfter limit state.ahead close [] state)

end Rule
end StatementParser
