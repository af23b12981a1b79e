import StatementParser.Event

/-!
A grammar rule reads tokens from the left and either yields a value or fails; both outcomes carry
the state the rule stopped in. Behind the last token there is always one more `eof`.
-/
namespace StatementParser

/-- The tokens ahead, the index of the first of them, the number of open conditionals, and the
events so far, latest first. -/
structure State where
  position : Nat
  ahead : List Token
  depth : Nat
  log : List Event
  deriving DecidableEq, Repr

namespace State

def start (tokens : List Token) : State :=
  ⟨0, tokens, 0, []⟩

def current (state : State) : Token :=
  state.ahead.headD Token.eof

/-- Step over one token; at the end of the input nothing moves. -/
def next (state : State) : State :=
  match state.ahead with
  | [] => state
  | _ :: rest => { state with position := state.position + 1, ahead := rest }

end State

abbrev Rule := EStateM SyntaxError State

namespace Rule

def current : Rule Token := fun state => .ok state.current state

def take : Rule Token := fun state => .ok state.current state.next

def refuse {α : Type} (reason : Reason) : Rule α := fun state =>
  .error ⟨reason, state.current.text, state.position⟩ state

/-- Read a token of the given kind and yield its text. -/
def expect (kind : Kind) (reason : Reason) : Rule String := do
  if (← current).kind = kind then
    let token ← take
    pure token.text
  else refuse reason

def announce : Rule Unit := fun state =>
  .ok () { state with log := .statement state.position state.current.kind :: state.log }

/-- Run a rule one conditional deeper; the depth is restored however the rule ends. -/
def nested {α : Type} (rule : Rule α) : Rule α := fun state =>
  match rule { state with depth := state.depth + 1 } with
  | .ok value after => .ok value { after with depth := after.depth - 1 }
  | .error error after => .error error { after with depth := after.depth - 1 }

variable {α β : Type}

@[simp] theorem run_current (state : State) : current.run state = .ok state.current state := rfl

@[simp] theorem run_take (state : State) : take.run state = .ok state.current state.next := rfl

@[simp] theorem run_refuse (reason : Reason) (state : State) :
    (refuse reason : Rule α).run state =
      .error ⟨reason, state.current.text, state.position⟩ state := rfl

@[simp] theorem run_announce (state : State) :
    announce.run state =
      .ok () { state with log := .statement state.position state.current.kind :: state.log } := rfl

theorem run_expect (kind : Kind) (reason : Reason) (state : State) :
    (expect kind reason).run state =
      if state.current.kind = kind then .ok state.current.text state.next
      else .error ⟨reason, state.current.text, state.position⟩ state := by
  by_cases same : state.current.kind = kind
  · simp only [expect, EStateM.run_bind, run_current, if_pos same, run_take, EStateM.run_pure]
  · simp only [expect, EStateM.run_bind, run_current, if_neg same, run_refuse]

theorem run_nested (rule : Rule α) (state : State) :
    (nested rule).run state =
      match rule.run { state with depth := state.depth + 1 } with
      | .ok value after => .ok value { after with depth := after.depth - 1 }
      | .error error after => .error error { after with depth := after.depth - 1 } := rfl

theorem of_bind_ok {rule : Rule α} {next : α → Rule β} {state after : State} {value : β}
    (done : (rule >>= next).run state = .ok value after) :
    ∃ first middle, rule.run state = .ok first middle ∧
      (next first).run middle = .ok value after := by
  rw [EStateM.run_bind] at done
  cases run : rule.run state with
  | ok first middle =>
    rw [run] at done
    exact ⟨first, middle, rfl, done⟩
  | error error middle =>
    rw [run] at done
    cases done

theorem of_nested_ok {rule : Rule α} {state after : State} {value : α}
    (done : (nested rule).run state = .ok value after) :
    ∃ middle, rule.run { state with depth := state.depth + 1 } = .ok value middle ∧
      after = { middle with depth := middle.depth - 1 } := by
  rw [run_nested] at done
  cases run : rule.run { state with depth := state.depth + 1 } with
  | ok inner middle =>
    rw [run] at done
    cases done
    exact ⟨middle, rfl, rfl⟩
  | error error middle =>
    rw [run] at done
    cases done

theorem bind_congr_of_ok {rule : Rule α} {next other : α → Rule β} {state : State}
    (agree : ∀ value middle, rule.run state = .ok value middle →
      (next value).run middle = (other value).run middle) :
    (rule >>= next).run state = (rule >>= other).run state := by
  rw [EStateM.run_bind, EStateM.run_bind]
  cases run : rule.run state with
  | ok value middle => exact agree value middle run
  | error error middle => rfl

end Rule
end StatementParser
