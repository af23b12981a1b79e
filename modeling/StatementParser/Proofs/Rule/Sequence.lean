import StatementParser.Proofs.Rule.Completeness

/-!
Statements in a row. Reading them is reading the first of them and going on behind it, from wherever
the first ones were read: only the position and the events tell how much came before. The statements
already read stand in front of those that follow and do not matter otherwise.
-/
namespace StatementParser.Rule

open Node (Fits Written)

theorem run_statementsBehind (limit : Option Nat) (close : Kind) (done : List Node)
    (state : State) :
    (statementsBehind limit close done).run state =
      (statements limit close >>= fun node =>
        pure (.statements (done.reverse ++ node.children))).run state := by
  induction length : state.ahead.length using Nat.strongRecOn generalizing done state with
  | ind length ih =>
  rw [statements_eq, statementsBehind_eq limit close done, statementsBehind_eq limit close [],
    bind_assoc]
  apply bind_congr_of_ok
  intro token middle looked
  cases looked
  dsimp only
  split
  · simp [Node.statements]
  · rw [bind_assoc]
    apply bind_congr_of_ok
    intro node after read
    have shorter := length_lt_of_run_statements read
    rw [ih after.ahead.length (by omega) (node :: done) after rfl, EStateM.run_bind,
      EStateM.run_bind, ih after.ahead.length (by omega) [node] after rfl, EStateM.run_bind]
    cases (statements limit close).run after with
    | ok others last => simp [Node.statements]
    | error error last => rfl

theorem position_of_run {α : Type} {task : Task α} {rule : Rule α} {state after : State} {value : α}
    (reads : Reads task rule state)
    (ran : rule.run state = .ok value after) :
    after.position + after.ahead.length = state.position + state.ahead.length := by
  obtain ⟨read, -, split, -, position⟩ := reads.exists_read ran
  rw [position, split, List.length_append]
  omega

theorem run_statement_of_fits {limit : Option Nat} {depth : Nat} (room : Within limit depth)
    {node : Node} (fits : Fits limit depth node) {read : List Token} (written : Written node read)
    (rest : List Token) (position : Nat) (log : List Event) :
    ∃ later, (statement limit (statements limit .rbrace)).run ⟨position, read ++ rest, depth, log⟩ =
      .ok node ⟨position + read.length, rest, depth, later⟩ := by
  obtain ⟨formed, within⟩ := fits
  obtain ⟨stop, later, ran⟩ := yields_statement formed (within room) written rest position log
  have more : (State.current ⟨position, read ++ rest, depth, log⟩).kind ≠ .eof := by
    obtain ⟨token, tail, rfl, -, inner⟩ := formed.exists_first written
    exact inner
  have same := position_of_run (reads_statement_of_statements limit more) ran
  simp only [List.length_append] at same
  have stops : stop = position + read.length := by omega
  rw [stops] at ran
  exact ⟨later, ran⟩

theorem run_statementsBehind_of_not_stop {limit : Option Nat} {close : Kind} (done : List Node)
    (state : State) (goesOn : ¬(state.current.kind = close ∨ state.current.kind = .eof)) :
    (statementsBehind limit close done).run state =
      (statement limit (statements limit .rbrace) >>= fun node =>
        statementsBehind limit close (node :: done)).run state := by
  rw [statementsBehind_eq, EStateM.run_bind, run_current]
  dsimp only
  rw [if_neg goesOn]

/-- Once statements that fit are read, reading goes on behind them as it would have begun there. -/
theorem run_statementsBehind_append {limit : Option Nat} {depth : Nat} (room : Within limit depth)
    {close : Kind} (closing : close = .rbrace ∨ close = .eof) {body : List Node}
    (all : ∀ node ∈ body, Fits limit depth node) (done : List Node) {read : List Token}
    (written : Written (.statements body) read) (rest : List Token) (position : Nat)
    (log : List Event) :
    ∃ later, (statementsBehind limit close done).run ⟨position, read ++ rest, depth, log⟩ =
      (statementsBehind limit close (body.reverse ++ done)).run
        ⟨position + read.length, rest, depth, later⟩ := by
  rw [Written, Node.tokens_statements] at written
  induction body generalizing done read position log with
  | nil =>
    obtain rfl := List.map_eq_nil_iff.mp written
    exact ⟨log, rfl⟩
  | cons node body ih =>
    rw [List.flatMap_cons] at written
    obtain ⟨word, behind, rfl, spelt, written⟩ := List.map_eq_append_iff.mp written
    have fits := all node List.mem_cons_self
    have goesOn := not_stop_of_statement closing fits.1 spelt (behind ++ rest)
    obtain ⟨middle, ran⟩ := run_statement_of_fits room fits spelt (behind ++ rest) position log
    obtain ⟨later, same⟩ := ih (fun inner member => all inner (List.mem_cons_of_mem node member))
      (node :: done) written (position + word.length) middle
    refine ⟨later, ?_⟩
    rw [List.append_assoc, run_statementsBehind_of_not_stop done ⟨position, _, depth, log⟩ goesOn,
      EStateM.run_bind, ran]
    simp only [List.length_append, List.reverse_cons, List.append_assoc, ← Nat.add_assoc]
    exact same

end StatementParser.Rule
