import StatementParser.Rule.Statement

/-!
What a rule does at a state depends on the depth, on the tokens it reads and on the one token at
which it stops. Everything else it leaves alone: the tokens behind, the position where it began and
the events before it only reappear in the outcome.
-/
namespace StatementParser

def Token.first (ahead : List Token) : Token :=
  ahead.headD Token.eof

theorem Token.first_drop (tokens : List Token) (index : Nat) :
    first (tokens.drop index) = tokens.getD index Token.eof := by
  rw [first, List.headD_eq_head?_getD, List.head?_drop, List.getD_eq_getElem?_getD]

/-- The tokens a rule reads, the statements begun meanwhile, latest first and counted from where the
rule began, and its value or the reason why it has none. -/
structure Effect (α : Type) where
  read : List Token
  begun : List (Nat × Kind)
  result : Except Reason α

namespace Effect

variable {α β : Type}

def shift (distance : Nat) (start : Nat × Kind) : Nat × Kind :=
  (distance + start.1, start.2)

def event (start : Nat × Kind) : Event :=
  .statement start.1 start.2

def after (effect : Effect α) (state : State) (rest : List Token) : State :=
  ⟨state.position + effect.read.length, rest, state.depth,
    effect.begun.map (fun start => event (shift state.position start)) ++ state.log⟩

def outcome (effect : Effect α) (state : State) (rest : List Token) :
    EStateM.Result SyntaxError State α :=
  match effect.result with
  | .ok value => .ok value (effect.after state rest)
  | .error reason =>
    .error ⟨reason, (Token.first rest).text, state.position + effect.read.length⟩
      (effect.after state rest)

def andThen (effect : Effect α) (later : Effect β) : Effect β :=
  ⟨effect.read ++ later.read, later.begun.map (shift effect.read.length) ++ effect.begun,
    later.result⟩

theorem after_after (effect : Effect α) (later : Effect β) (state : State)
    (middle rest : List Token) :
    later.after (effect.after state middle) rest = (effect.andThen later).after state rest := by
  simp only [after, andThen, List.length_append, List.map_append, List.map_map, List.append_assoc,
    Nat.add_assoc]
  congr 3
  funext start
  simp [shift, Nat.add_assoc]

theorem outcome_andThen (effect : Effect α) (later : Effect β) (state : State)
    (middle rest : List Token) :
    (effect.andThen later).outcome state rest = later.outcome (effect.after state middle) rest := by
  unfold outcome
  rw [after_after]
  simp only [after, andThen, List.length_append, Nat.add_assoc]

theorem outcome_ok {effect : Effect α} {value : α} (ok : effect.result = .ok value) (state : State)
    (rest : List Token) : effect.outcome state rest = .ok value (effect.after state rest) := by
  rw [outcome, ok]

theorem outcome_error {effect : Effect α} {reason : Reason} (error : effect.result = .error reason)
    (state : State) (rest : List Token) :
    effect.outcome state rest =
      .error ⟨reason, (Token.first rest).text, state.position + effect.read.length⟩
        (effect.after state rest) := by
  rw [outcome, error]

theorem eq_of_event_shift_eq {distance : Nat} {start other : Nat × Kind}
    (same : event (shift distance start) = event (shift distance other)) : start = other := by
  obtain ⟨place, kind⟩ := start
  obtain ⟨further, also⟩ := other
  injection same with places kinds
  exact Prod.ext (Nat.add_left_cancel places) kinds

theorem eq_of_outcome_eq {effect other : Effect α} {state : State} {rest more : List Token}
    (ahead : state.ahead = effect.read ++ rest) (otherAhead : state.ahead = other.read ++ more)
    (same : effect.outcome state rest = other.outcome state more) : effect = other := by
  have ended : effect.after state rest = other.after state more ∧ effect.result = other.result := by
    unfold outcome at same
    split at same
    next value done =>
      split at same
      next also =>
        injection same with values states
        exact ⟨states, by rw [done, also, values]⟩
      next => cases same
    next reason failed =>
      split at same
      next => cases same
      next also =>
        injection same with errors states
        injection errors with reasons
        exact ⟨states, by rw [failed, also, reasons]⟩
  obtain ⟨states, results⟩ := ended
  injection states with _ rests _ logs
  obtain ⟨read, begun, result⟩ := effect
  obtain ⟨otherRead, otherBegun, otherResult⟩ := other
  subst rests
  obtain rfl : read = otherRead := List.append_cancel_right (ahead.symm.trans otherAhead)
  obtain rfl : begun = otherBegun :=
    (List.map_inj_right fun _ _ => eq_of_event_shift_eq).mp (List.append_cancel_right logs)
  obtain rfl : result = otherResult := results
  rfl

end Effect

namespace Rule

variable {α β : Type}

/-- At this state the rule has the effect and leaves the rest ahead. It has the same effect wherever
the depth and the tokens up to the one it stops at are the same. -/
structure Acts (rule : Rule α) (state : State) (effect : Effect α) (rest : List Token) : Prop where
  ahead : state.ahead = effect.read ++ rest
  inner : ∀ token ∈ effect.read, token.kind ≠ .eof
  again : ∀ other more, other.depth = state.depth → other.ahead = effect.read ++ more →
    Token.first more = Token.first rest → rule.run other = effect.outcome other more

theorem Acts.run {rule : Rule α} {state : State} {effect : Effect α} {rest : List Token}
    (acts : Acts rule state effect rest) : rule.run state = effect.outcome state rest :=
  acts.again state rest rfl acts.ahead rfl

theorem first_append {read left right : List Token} (same : Token.first left = Token.first right) :
    Token.first (read ++ left) = Token.first (read ++ right) := by
  cases read with
  | nil => exact same
  | cons token read => rfl

theorem acts_bind {rule : Rule α} {next : α → Rule β} {state : State} {effect : Effect α}
    {later : Effect β} {middle rest : List Token} {value : α} (head : Acts rule state effect middle)
    (ok : effect.result = .ok value)
    (tail : Acts (next value) (effect.after state middle) later rest) :
    Acts (rule >>= next) state (effect.andThen later) rest where
  ahead := by
    have split : middle = later.read ++ rest := tail.ahead
    rw [head.ahead, split, Effect.andThen, List.append_assoc]
  inner := by
    intro token member
    rcases List.mem_append.mp member with before | behind
    · exact head.inner token before
    · exact tail.inner token behind
  again := by
    intro other more depth ahead same
    have split : middle = later.read ++ rest := tail.ahead
    have first : rule.run other = .ok value (effect.after other (later.read ++ more)) := by
      rw [head.again other (later.read ++ more) depth
        (by rw [ahead, Effect.andThen, List.append_assoc]) (by rw [split]; exact first_append same)]
      exact Effect.outcome_ok ok other _
    rw [EStateM.run_bind, first, Effect.outcome_andThen effect later other (later.read ++ more)]
    exact tail.again _ more depth rfl same

theorem acts_bind_error {rule : Rule α} {next : α → Rule β} {state : State} {effect : Effect α}
    {rest : List Token} {reason : Reason} (head : Acts rule state effect rest)
    (error : effect.result = .error reason) :
    Acts (rule >>= next) state ⟨effect.read, effect.begun, .error reason⟩ rest where
  ahead := head.ahead
  inner := head.inner
  again := by
    intro other more depth ahead same
    rw [EStateM.run_bind, head.again other more depth ahead same, Effect.outcome_error error]
    rfl

theorem acts_pure (value : α) (state : State) :
    Acts (pure value : Rule α) state ⟨[], [], .ok value⟩ state.ahead where
  ahead := rfl
  inner := by simp
  again := by
    intro other more depth ahead same
    cases other
    cases ahead
    rfl

theorem acts_refuse (reason : Reason) (state : State) :
    Acts (refuse reason : Rule α) state ⟨[], [], .error reason⟩ state.ahead where
  ahead := rfl
  inner := by simp
  again := by
    intro other more depth ahead same
    cases other
    cases ahead
    rfl

theorem current_eq_of_same {state other : State} {read rest more : List Token}
    (ahead : state.ahead = read ++ rest) (otherAhead : other.ahead = read ++ more)
    (same : Token.first more = Token.first rest) : other.current = state.current := by
  change Token.first other.ahead = Token.first state.ahead
  rw [ahead, otherAhead]
  exact first_append same

theorem acts_announce (state : State) :
    Acts announce state ⟨[], [(0, state.current.kind)], .ok ()⟩ state.ahead where
  ahead := rfl
  inner := by simp
  again := by
    intro other more depth ahead same
    have seen : other.current = state.current :=
      current_eq_of_same (List.nil_append state.ahead).symm ahead same
    rw [run_announce, seen]
    cases other
    cases ahead
    rfl

theorem acts_take {state : State} (more : state.current.kind ≠ .eof) :
    Acts take state ⟨[state.current], [], .ok state.current⟩ state.next.ahead where
  ahead := by
    cases state with
    | mk position ahead depth log =>
      cases ahead with
      | nil => exact absurd rfl more
      | cons token rest => rfl
  inner := by
    intro token member
    rw [List.mem_singleton.mp member]
    exact more
  again := by
    intro other rest depth ahead same
    cases other
    cases ahead
    rfl

theorem acts_current {next : Token → Rule α} {state : State} {effect : Effect α}
    {rest : List Token} (acts : Acts (next state.current) state effect rest) :
    Acts (current >>= next) state effect rest where
  ahead := acts.ahead
  inner := acts.inner
  again := by
    intro other more depth ahead same
    rw [EStateM.run_bind, run_current, current_eq_of_same acts.ahead ahead same]
    exact acts.again other more depth ahead same

theorem acts_get {next : State → Rule α} {state : State} {effect : Effect α} {rest : List Token}
    (blind : ∀ other : State, other.depth = state.depth → next other = next state)
    (acts : Acts (next state) state effect rest) : Acts (get >>= next) state effect rest where
  ahead := acts.ahead
  inner := acts.inner
  again := by
    intro other more depth ahead same
    rw [EStateM.run_bind, EStateM.run_get]
    dsimp only
    rw [blind other depth]
    exact acts.again other more depth ahead same

theorem acts_nested {rule : Rule α} {state : State} {effect : Effect α} {rest : List Token}
    (acts : Acts rule { state with depth := state.depth + 1 } effect rest) :
    Acts (nested rule) state effect rest where
  ahead := acts.ahead
  inner := acts.inner
  again := by
    intro other more depth ahead same
    rw [run_nested, acts.again { other with depth := other.depth + 1 } more
      (by dsimp only; rw [depth]) ahead same]
    cases result : effect.result with
    | ok value => rw [Effect.outcome_ok result, Effect.outcome_ok result]; rfl
    | error reason => rw [Effect.outcome_error result, Effect.outcome_error result]; rfl

/-- The rounds of a loop are bounded by the tokens ahead where it begins. It acts as with any other
bound that covers them. -/
theorem acts_loop {loop : List Token → Rule α} {state : State} {effect : Effect α}
    {rest : List Token}
    (bounded : ∀ (room other : List Token) (begin : State), begin.ahead.length ≤ room.length →
      begin.ahead.length ≤ other.length → (loop room).run begin = (loop other).run begin)
    (each : ∀ room : List Token, state.ahead.length ≤ room.length →
      ∃ effect rest, Acts (loop room) state effect rest)
    (acts : Acts (loop state.ahead) state effect rest) :
    Acts (get >>= fun seen => loop seen.ahead) state effect rest where
  ahead := acts.ahead
  inner := acts.inner
  again := by
    intro other more depth ahead same
    have here : state.ahead.length ≤ (state.ahead ++ other.ahead).length := by simp
    have there : other.ahead.length ≤ (state.ahead ++ other.ahead).length := by simp
    obtain ⟨wide, behind, also⟩ := each (state.ahead ++ other.ahead) here
    have ran := bounded state.ahead (state.ahead ++ other.ahead) state (Nat.le_refl _) here
    rw [acts.run, also.run] at ran
    obtain rfl : effect = wide := Effect.eq_of_outcome_eq acts.ahead also.ahead ran
    obtain rfl : rest = behind :=
      List.append_cancel_left (acts.ahead.symm.trans also.ahead)
    change (loop other.ahead).run other = effect.outcome other more
    rw [bounded other.ahead (state.ahead ++ other.ahead) other (Nat.le_refl _) there]
    exact also.again other more depth ahead same

end Rule
end StatementParser
