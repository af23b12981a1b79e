import StatementParser.Program
import StatementParser.Proofs.Rule.Rounds

/-!
Runs under watch. The rules here stray, to anything at all, where a loop has no more rounds but a
sign or a statement is still ahead, where a block begins deeper than the limit, and where it ends at
depth zero, so that the depth could not be lowered behind it. They run like the rules of the
grammar, so nothing of this happens in these: the bounds on the rounds never end a loop, and the
depth stays within its own.
-/
namespace StatementParser.Rule

open Program (maxNesting)

variable {α : Type}

/-- Join further terms, or stray if there are more of them than rounds. -/
def watchedChain (stray : Rule Node) (room : List Token) (left : Node) : Rule Node := do
  match operatorKind? (← current).kind with
  | none => pure left
  | some kind =>
    match room with
    | [] => stray
    | _ :: room =>
      let operator ← take
      let right ← term
      watchedChain stray room (.binary kind operator.text left right)

def watchedExpression (stray : Rule Node) : Rule Node := do
  let left ← term
  let state ← get
  watchedChain stray state.ahead left

def lastDepth : EStateM.Result SyntaxError State α → Nat
  | .ok _ after => after.depth
  | .error _ after => after.depth

/-- Run a block, or stray if it begins too deep or ends at depth zero. -/
def watch (stray block : Rule Node) : Rule Node := fun state =>
  if state.depth ≤ maxNesting ∧ lastDepth (block.run state) ≠ 0 then block.run state
  else stray.run state

/-- Read statements with all their blocks watched, or stray if there are more of them than rounds.
-/
def watchedAfter (stray : Rule Node) (room : List Token) (close : Kind) (done : List Node) :
    Rule Node := do
  let kind := (← current).kind
  if kind = close ∨ kind = .eof then pure (.statements done.reverse)
  else
    match room with
    | [] => stray
    | _ :: room =>
      let node ← statement (some maxNesting) (watch stray (watchedAfter stray room .rbrace []))
      watchedAfter stray room close (node :: done)

def watchedStatements (stray : Rule Node) (close : Kind) : Rule Node := do
  let state ← get
  watchedAfter stray state.ahead close []

variable (stray : Rule Node)

theorem run_watchedChain (room : List Token) (left : Node) {state : State}
    (enough : state.ahead.length ≤ room.length) :
    (watchedChain stray room left).run state = (terms left).run state := by
  induction room generalizing left state with
  | nil =>
    have empty : state.ahead = [] := List.eq_nil_of_length_eq_zero (Nat.le_zero.mp enough)
    rw [watchedChain, terms_eq, EStateM.run_bind, EStateM.run_bind, run_current,
      current_of_ahead_nil empty]
    rfl
  | cons token room ih =>
    rw [watchedChain, terms_eq, EStateM.run_bind, EStateM.run_bind, run_current]
    dsimp only
    cases found : operatorKind? state.current.kind with
    | none => rfl
    | some kind =>
      have shorter := next_length_lt (kind_ne_eof_of_operatorKind? found)
      apply bind_congr_of_ok
      intro operator middle taken
      cases taken
      apply bind_congr_of_ok
      intro right after read
      have bound := length_le_of_run_term read
      simp only [List.length_cons] at enough
      exact ih _ (by omega)

theorem watchedExpression_eq : watchedExpression stray = expression := by
  funext state
  show (watchedExpression stray).run state = expression.run state
  apply bind_congr_of_ok
  intro left middle read
  exact run_watchedChain stray middle.ahead left (Nat.le_refl _)

theorem lastDepth_of_reads {task : Task α} {rule : Rule α} {state : State}
    (reads : Reads task rule state) : lastDepth (rule.run state) = state.depth := by
  obtain ⟨effect, rest, acts, -⟩ := reads
  rw [acts.run]
  cases result : effect.result with
  | ok value => rw [Effect.outcome_ok result]; rfl
  | error reason => rw [Effect.outcome_error result]; rfl

theorem lt_maxNesting_of_free {depth : Nat} (shallow : depth ≤ maxNesting)
    (free : some maxNesting ≠ some depth) : depth < maxNesting :=
  Nat.lt_of_le_of_ne shallow fun same => free (congrArg some same.symm)

theorem run_watch {block : Rule Node} {state : State} (begun : 0 < state.depth)
    (fits : state.depth ≤ maxNesting)
    (same : block.run state = (statements (some maxNesting) .rbrace).run state) :
    (watch stray block).run state = (statements (some maxNesting) .rbrace).run state := by
  have kept := lastDepth_of_reads (reads_statements (some maxNesting) .rbrace state)
  have ends : lastDepth (block.run state) ≠ 0 := by
    rw [same, kept]
    exact Nat.ne_of_gt begun
  change (if _ then block.run state else stray.run state) = _
  rw [if_pos ⟨fits, ends⟩, same]

theorem run_watchedAfter (room : List Token) (close : Kind) (done : List Node) {state : State}
    (enough : state.ahead.length ≤ room.length) (shallow : state.depth ≤ maxNesting) :
    (watchedAfter stray room close done).run state =
      (statementsBehind (some maxNesting) close done).run state := by
  induction room generalizing close done state with
  | nil =>
    have empty : state.ahead = [] := List.eq_nil_of_length_eq_zero (Nat.le_zero.mp enough)
    rw [watchedAfter, statementsBehind_eq, EStateM.run_bind, EStateM.run_bind, run_current,
      current_of_ahead_nil empty]
    dsimp only
    rw [if_pos (.inr rfl), if_pos (.inr rfl)]
  | cons token room ih =>
    simp only [List.length_cons] at enough
    rw [watchedAfter, statementsBehind_eq, EStateM.run_bind, EStateM.run_bind, run_current]
    dsimp only
    split
    next => rfl
    next goesOn =>
      have head : (statement (some maxNesting) (watch stray (watchedAfter stray room .rbrace []))).run
            state =
          (statement (some maxNesting) (statements (some maxNesting) .rbrace)).run state := by
        apply statement_congr
        intro free inner below shorter
        have room := lt_maxNesting_of_free shallow free
        exact run_watch stray (by omega) (by omega) (ih .rbrace [] (by omega) (by omega))
      rw [EStateM.run_bind, EStateM.run_bind, head]
      cases run : (statement (some maxNesting) (statements (some maxNesting) .rbrace)).run state with
      | error error after => rfl
      | ok node after =>
        have spent := length_lt_of_run_statements run
        obtain ⟨-, -, -, depth, -⟩ :=
          (reads_statement_of_statements _ fun ended => goesOn (.inr ended)).exists_read run
        exact ih close (node :: done) (by omega) (by omega)

section Limited

variable {state : State} (shallow : state.depth ≤ maxNesting)

include shallow

theorem run_watchedStatements (close : Kind) :
    (watchedStatements stray close).run state = (statements (some maxNesting) close).run state :=
  run_watchedAfter stray state.ahead close [] (Nat.le_refl _) shallow

theorem run_watched_block (free : some maxNesting ≠ some state.depth) {inner : State}
    (below : inner.depth = state.depth + 1) :
    (watch stray (watchedStatements stray .rbrace)).run inner =
      (statements (some maxNesting) .rbrace).run inner := by
  have room := lt_maxNesting_of_free shallow free
  exact run_watch stray (by omega) (by omega) (run_watchedStatements stray (by omega) .rbrace)

end Limited

end StatementParser.Rule
