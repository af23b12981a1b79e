import StatementParser.Proofs.Rule.Statement

/-!
Like the loop of a chain, that of the statements carries a list that only bounds its rounds. Every
bound that covers the tokens ahead gives the same run, so statements obey the equation they would
have without a bound, and what is known of the loop is known of them.
-/
namespace StatementParser.Rule

open Node (Fits Written)

section

variable {limit other : Option Nat} {block alike : Rule Node} {state after : State}

theorem run_statement_of_ne (away : state.current.kind ≠ .ifWord) :
    (statement limit block).run state = (statement other alike).run state := by
  apply bind_congr_of_ok
  intro _ begun announced
  cases announced
  apply bind_congr_of_ok
  intro token middle looked
  cases looked
  split
  next => rfl
  next => rfl
  next same => exact absurd same away
  next => rfl

theorem run_statement_of_ifWord (same : state.current.kind = .ifWord) :
    (statement limit block).run state = (conditional limit block).run
      { state with log := .statement state.position state.current.kind :: state.log } := by
  rw [statement, EStateM.run_bind, run_announce]
  dsimp only
  rw [EStateM.run_bind, run_current]
  dsimp only [State.current] at same ⊢
  rw [same]

theorem run_statement_of_eof (ended : state.current.kind = .eof) :
    (statement limit block).run state =
      .error ⟨.unexpected, state.current.text, state.position⟩
        { state with log := .statement state.position state.current.kind :: state.log } := by
  rw [statement, EStateM.run_bind, run_announce]
  dsimp only
  rw [EStateM.run_bind, run_current]
  dsimp only [State.current] at ended ⊢
  rw [ended]
  rfl

theorem conditional_congr (same : state.current.kind = .ifWord)
    (agree : limit ≠ some state.depth → ∀ inner : State, inner.depth = state.depth + 1 →
      inner.ahead.length < state.ahead.length → block.run inner = alike.run inner) :
    (conditional limit block).run state = (conditional limit alike).run state := by
  rw [conditional_eq, conditional_eq, EStateM.run_bind, EStateM.run_bind, EStateM.run_get]
  dsimp only
  split
  next => rfl
  next free =>
    apply bind_congr_of_ok
    intro start begun opened
    obtain ⟨read, header, split, depth, -⟩ := (reads_header same).exists_read opened
    have less := header.length_pos
    have shorter := congrArg List.length split
    rw [List.length_append] at shorter
    have blocks := agree (by simpa [tooDeep] using free) { begun with depth := begun.depth + 1 }
      (congrArg (· + 1) depth) (by dsimp only; omega)
    rw [EStateM.run_bind, EStateM.run_bind, run_nested, run_nested, blocks]

theorem statement_congr
    (agree : limit ≠ some state.depth → ∀ inner : State, inner.depth = state.depth + 1 →
      inner.ahead.length < state.ahead.length → block.run inner = alike.run inner) :
    (statement limit block).run state = (statement limit alike).run state := by
  by_cases same : state.current.kind = .ifWord
  · rw [run_statement_of_ifWord same, run_statement_of_ifWord same]
    exact conditional_congr same agree
  · exact run_statement_of_ne same

theorem length_lt_of_run_statement
    (inner : ∀ below : State, below.depth = state.depth + 1 →
      below.ahead.length < state.ahead.length → ReadsBlock limit block below)
    {node : Node} (ran : (statement limit block).run state = .ok node after) :
    after.ahead.length < state.ahead.length := by
  by_cases ended : state.current.kind = .eof
  · rw [run_statement_of_eof ended] at ran
    cases ran
  · exact length_lt_of_reads_statement (reads_statement ended inner) ran

theorem statement_bind_congr {next goesOn : Node → Rule Node}
    (inner : ∀ below : State, below.ahead.length < state.ahead.length →
      ReadsBlock limit block below ∧ block.run below = alike.run below)
    (behind : ∀ node (after : State), after.ahead.length < state.ahead.length →
      (next node).run after = (goesOn node).run after) :
    (statement limit block >>= next).run state = (statement limit alike >>= goesOn).run state := by
  have same : (statement limit block).run state = (statement limit alike).run state :=
    statement_congr fun _ below _ less => (inner below less).2
  rw [EStateM.run_bind, EStateM.run_bind, ← same]
  cases run : (statement limit block).run state with
  | error error after => rfl
  | ok node after =>
    exact behind node after (length_lt_of_run_statement (fun below _ less => (inner below less).1) run)

end

theorem statementsAfter_at_end (limit : Option Nat) (room : List Token) (close : Kind)
    (done : List Node) {state : State} (empty : state.ahead = []) :
    (statementsAfter limit room close done).run state = .ok (.statements done.reverse) state := by
  cases room with
  | nil => rfl
  | cons token room =>
    rw [statementsAfter, EStateM.run_bind, run_current, current_of_ahead_nil empty]
    dsimp only
    rw [if_pos (.inr rfl), EStateM.run_pure]

theorem readsBlock_statementsAfter {limit : Option Nat} {room : List Token} {state : State}
    (enough : state.ahead.length ≤ room.length) :
    ReadsBlock limit (statementsAfter limit room .rbrace []) state := by
  obtain ⟨reads, stops⟩ := reads_statementsAfter limit room .rbrace [] enough
  exact ⟨reads_block reads, stops⟩

theorem statementsAfter_room (limit : Option Nat) {room other : List Token} (close : Kind)
    (done : List Node) {state : State} (enough : state.ahead.length ≤ room.length)
    (covered : state.ahead.length ≤ other.length) :
    (statementsAfter limit room close done).run state =
      (statementsAfter limit other close done).run state := by
  induction room generalizing other close done state with
  | nil =>
    have empty : state.ahead = [] := List.eq_nil_of_length_eq_zero (Nat.le_zero.mp enough)
    rw [statementsAfter_at_end _ _ _ _ empty, statementsAfter_at_end _ _ _ _ empty]
  | cons token room ih =>
    cases other with
    | nil =>
      have empty : state.ahead = [] := List.eq_nil_of_length_eq_zero (Nat.le_zero.mp covered)
      rw [statementsAfter_at_end _ _ _ _ empty, statementsAfter_at_end _ _ _ _ empty]
    | cons token other =>
      simp only [List.length_cons] at enough covered
      rw [statementsAfter, statementsAfter, EStateM.run_bind, EStateM.run_bind, run_current]
      dsimp only
      split
      · rfl
      · apply statement_bind_congr
        · intro inner shorter
          exact ⟨readsBlock_statementsAfter (by omega), ih .rbrace [] (by omega) (by omega)⟩
        · intro node after shorter
          exact ih close (node :: done) (by omega) (by omega)

/-- Read statements up to a token of the closing kind and put them behind those already read,
latest first. -/
def statementsBehind (limit : Option Nat) (close : Kind) (done : List Node) : Rule Node := do
  let state ← get
  statementsAfter limit state.ahead close done

theorem statements_eq (limit : Option Nat) (close : Kind) :
    statements limit close = statementsBehind limit close [] := rfl

theorem statementsBehind_eq (limit : Option Nat) (close : Kind) (done : List Node) :
    statementsBehind limit close done = (do
      let kind := (← current).kind
      if kind = close ∨ kind = .eof then pure (.statements done.reverse)
      else
        let node ← statement limit (statements limit .rbrace)
        statementsBehind limit close (node :: done)) := by
  funext state
  have wider : state.ahead.length ≤ (Token.eof :: state.ahead).length := Nat.le_succ _
  show (statementsAfter limit state.ahead close done).run state = EStateM.run _ state
  rw [statementsAfter_room limit close done (Nat.le_refl _) wider, statementsAfter,
    EStateM.run_bind, EStateM.run_bind, run_current]
  dsimp only
  split
  · rfl
  · apply statement_bind_congr
    · intro inner shorter
      exact ⟨readsBlock_statementsAfter (by omega),
        statementsAfter_room limit .rbrace [] (by omega) (Nat.le_refl _)⟩
    · intro node after shorter
      exact statementsAfter_room limit close (node :: done) (by omega) (Nat.le_refl _)

section

variable {limit : Option Nat} {close : Kind} {state after : State} {node : Node}

theorem reads_statementsBehind (limit : Option Nat) (close : Kind) (done : List Node)
    (state : State) :
    Reads (.further limit state.depth done) (statementsBehind limit close done) state :=
  reads_loop (fun _ _ _ => statementsAfter_room limit close done) fun room enough =>
    (reads_statementsAfter limit room close done enough).1

theorem reads_statements (limit : Option Nat) (close : Kind) (state : State) :
    Reads (.block limit state.depth) (statements limit close) state :=
  reads_block (reads_statementsBehind limit close [] state)

theorem statements_stops (ran : (statements limit close).run state = .ok node after) :
    after.current.kind = close ∨ after.current.kind = .eof :=
  (reads_statementsAfter limit state.ahead close [] (Nat.le_refl _)).2 node after ran

theorem readsBlock_statements (limit : Option Nat) (state : State) :
    ReadsBlock limit (statements limit .rbrace) state :=
  ⟨reads_statements limit .rbrace state, fun _ _ => statements_stops⟩

theorem reads_statement_of_statements (limit : Option Nat) (more : state.current.kind ≠ .eof) :
    Reads (.statement limit state.depth) (statement limit (statements limit .rbrace)) state :=
  reads_statement more fun inner _ _ => readsBlock_statements limit inner

theorem length_lt_of_run_statements
    (ran : (statement limit (statements limit .rbrace)).run state = .ok node after) :
    after.ahead.length < state.ahead.length :=
  length_lt_of_run_statement (fun inner _ _ => readsBlock_statements limit inner) ran

end

end StatementParser.Rule
