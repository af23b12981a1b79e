import StatementParser.Proofs.Rule.Rounds

/-!
What a limit on nesting changes. A rule with a limit does what it does without one until it refuses
a conditional as too deep; without the limit it then goes on behind the keyword of that conditional,
however it ends. Both facts pass from step to step because no rule ever goes back.
-/
namespace StatementParser

namespace Rule

variable {α β : Type}

/-- The index of the token in front of which a run ended, with success or without. -/
def reached : EStateM.Result SyntaxError State α → Nat
  | .ok _ after => after.position
  | .error _ after => after.position

/-- The rule never goes back, not even when it fails. -/
def Advances (rule : Rule α) : Prop :=
  ∀ state, state.position ≤ reached (rule.run state)

theorem reached_le_bind {rule : Rule α} {next : α → Rule β}
    (behind : ∀ value, Advances (next value)) (state : State) :
    reached (rule.run state) ≤ reached ((rule >>= next).run state) := by
  rw [EStateM.run_bind]
  cases rule.run state with
  | ok value middle => exact behind value middle
  | error error after => exact Nat.le_refl _

theorem advances_bind {rule : Rule α} {next : α → Rule β} (head : Advances rule)
    (behind : ∀ value, Advances (next value)) : Advances (rule >>= next) :=
  fun state => Nat.le_trans (head state) (reached_le_bind behind state)

theorem advances_pure (value : α) : Advances (pure value : Rule α) :=
  fun _ => Nat.le_refl _

theorem position_le_next (state : State) : state.position ≤ state.next.position := by
  unfold State.next
  split
  · exact Nat.le_refl _
  · exact Nat.le_succ _

theorem advances_expect (kind : Kind) (reason : Reason) : Advances (expect kind reason) := by
  intro state
  rw [run_expect]
  by_cases same : state.current.kind = kind
  · rw [if_pos same]
    exact position_le_next state
  · rw [if_neg same]
    exact Nat.le_refl _

theorem advances_of_reads {rule : Rule α}
    (reads : ∀ state, ∃ task : Task α, Reads task rule state) : Advances rule := by
  intro state
  obtain ⟨task, effect, rest, acts, -⟩ := reads state
  have far : state.position ≤ state.position + effect.read.length := Nat.le_add_right _ _
  rw [acts.run]
  cases result : effect.result with
  | ok value =>
    rw [Effect.outcome_ok result]
    exact far
  | error reason =>
    rw [Effect.outcome_error result]
    exact far

theorem reached_nested (rule : Rule α) (state : State) :
    reached ((nested rule).run state) =
      reached (rule.run { state with depth := state.depth + 1 }) := by
  rw [run_nested]
  cases rule.run { state with depth := state.depth + 1 } with
  | ok value after => rfl
  | error error after => rfl

theorem advances_nested {rule : Rule α} (advances : Advances rule) : Advances (nested rule) := by
  intro state
  rw [reached_nested]
  exact advances { state with depth := state.depth + 1 }

theorem lt_reached_header {state : State} (more : state.current.kind ≠ .eof) :
    state.position < reached (header.run state) := by
  have taken : state.position < reached (take.run state) := by
    obtain ⟨position, ahead, depth, log⟩ := state
    cases ahead with
    | nil => exact absurd rfl more
    | cons token rest => exact Nat.lt_succ_self position
  have behind : Advances condition := advances_of_reads fun state => ⟨_, reads_condition state⟩
  refine Nat.lt_of_lt_of_le taken (reached_le_bind (fun keyword => ?_) state)
  exact advances_bind (advances_expect _ _) fun _ =>
    advances_bind behind fun _ =>
      advances_bind (advances_expect _ _) fun _ =>
        advances_bind (advances_expect _ _) fun _ => advances_pure _

theorem advances_statementsBehind (close : Kind) (done : List Node) :
    Advances (statementsBehind none close done) :=
  advances_of_reads fun state => ⟨_, reads_statementsBehind none close done state⟩

/-- Without the limit the rule does the same, or it goes on where with the limit a conditional is
too deep. -/
def Relaxes (limited free : Rule α) (state : State) : Prop :=
  free.run state = limited.run state ∨
    ∃ error after, limited.run state = .error error after ∧ error.reason = .tooDeep ∧
      error.position < reached (free.run state)

theorem relaxes_rfl (rule : Rule α) (state : State) : Relaxes rule rule state :=
  .inl rfl

theorem relaxes_bind {limited free : Rule α} {next more : α → Rule β} {state : State}
    (head : Relaxes limited free state) (behind : ∀ value, Advances (more value))
    (tail : ∀ value middle, limited.run state = .ok value middle →
      Relaxes (next value) (more value) middle) :
    Relaxes (limited >>= next) (free >>= more) state := by
  rcases head with same | ⟨error, after, failed, deep, further⟩
  · unfold Relaxes
    rw [EStateM.run_bind, EStateM.run_bind, same]
    cases run : limited.run state with
    | ok value middle => exact tail value middle run
    | error error after => exact .inl rfl
  · refine .inr ⟨error, after, ?_, deep, ?_⟩
    · rw [EStateM.run_bind, failed]
    · exact Nat.lt_of_lt_of_le further (reached_le_bind behind state)

theorem relaxes_bind_rfl {rule : Rule α} {next more : α → Rule β} {state : State}
    (tail : ∀ value middle, rule.run state = .ok value middle →
      Relaxes (next value) (more value) middle) :
    Relaxes (rule >>= next) (rule >>= more) state := by
  unfold Relaxes
  rw [EStateM.run_bind, EStateM.run_bind]
  cases run : rule.run state with
  | ok value middle => exact tail value middle run
  | error error after => exact .inl rfl

theorem relaxes_nested {limited free : Rule α} {state : State}
    (inner : Relaxes limited free { state with depth := state.depth + 1 }) :
    Relaxes (nested limited) (nested free) state := by
  unfold Relaxes
  rw [reached_nested, run_nested, run_nested]
  rcases inner with same | ⟨error, after, failed, deep, further⟩
  · rw [same]
    exact .inl rfl
  · rw [failed]
    exact .inr ⟨error, _, rfl, deep, further⟩

theorem relaxes_conditional {limit : Option Nat} {block free : Rule Node} {state : State}
    (same : state.current.kind = .ifWord) (advances : Advances free)
    (inner : ∀ other : State, other.ahead.length < state.ahead.length →
      Relaxes block free other) :
    Relaxes (conditional limit block) (conditional none free) state := by
  rw [conditional_eq, conditional_eq]
  apply relaxes_bind_rfl
  intro seen start ran
  cases ran
  have unlimited : ¬tooDeep none state = true := by simp [tooDeep]
  have finish : ∀ start : String × Node, ∀ body, Advances (do
      let _ ← expect .rbrace .braceAfterStatements
      pure (⟨.conditional, some start.1, [start.2, body]⟩ : Node)) :=
    fun _ _ => advances_bind (advances_expect _ _) fun _ => advances_pure _
  rw [if_neg unlimited]
  by_cases deep : tooDeep limit state = true
  · rw [if_pos deep]
    have more : state.current.kind ≠ .eof := by simp [same]
    refine .inr ⟨_, state, run_refuse _ state, rfl, ?_⟩
    refine Nat.lt_of_lt_of_le (lt_reached_header more) (reached_le_bind (fun start => ?_) state)
    exact advances_bind (advances_nested advances) (finish start)
  · rw [if_neg deep]
    apply relaxes_bind_rfl
    intro start after begun
    obtain ⟨read, header, split, -⟩ := (reads_header same).exists_read begun
    have less := header.length_pos
    have shorter := congrArg List.length split
    rw [List.length_append] at shorter
    refine relaxes_bind (relaxes_nested (inner _ (by dsimp only; omega))) (finish start) ?_
    intro body last ran
    exact relaxes_rfl _ last

theorem relaxes_statement {limit : Option Nat} {block free : Rule Node} {state : State}
    (advances : Advances free)
    (inner : ∀ other : State, other.ahead.length < state.ahead.length →
      Relaxes block free other) :
    Relaxes (statement limit block) (statement none free) state := by
  by_cases same : state.current.kind = .ifWord
  · unfold Relaxes
    rw [run_statement_of_ifWord same, run_statement_of_ifWord same]
    exact relaxes_conditional same advances inner
  · exact .inl (run_statement_of_ne same)

theorem relaxes_statementsBehind (limit : Option Nat) (close : Kind) (done : List Node)
    (state : State) :
    Relaxes (statementsBehind limit close done) (statementsBehind none close done) state := by
  induction length : state.ahead.length using Nat.strongRecOn generalizing close done state with
  | ind length ih =>
  rw [statementsBehind_eq, statementsBehind_eq]
  apply relaxes_bind_rfl
  intro token start looked
  cases looked
  dsimp only
  split
  next => exact relaxes_rfl _ _
  next =>
    refine relaxes_bind (relaxes_statement (advances_statementsBehind .rbrace []) ?_)
      (fun node => advances_statementsBehind close (node :: done)) ?_
    · intro other less
      exact ih _ (length ▸ less) .rbrace [] other rfl
    · intro node after ran
      have shorter := length_lt_of_run_statements ran
      exact ih after.ahead.length (by omega) close (node :: done) after rfl

theorem relaxes_statements (limit : Option Nat) (close : Kind) (state : State) :
    Relaxes (statements limit close) (statements none close) state :=
  relaxes_statementsBehind limit close [] state

end Rule
end StatementParser
