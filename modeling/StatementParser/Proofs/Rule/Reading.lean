import StatementParser.Proofs.Node.Starts
import StatementParser.Proofs.Rule.Effect

/-!
What a rule is for. A rule reads for a task when it yields a value together with its tokens, or else
stops where a token of the kind asked for would have let it go on to some value. Meanwhile it
reports the statements that begin among the tokens read. Tasks follow the rules step by step, and
one statement for each step is enough for both outcomes.
-/
namespace StatementParser

open Token (starts freeBehind)

/-- The kind of token asked for where a rule stopped; an identifier where several would do. -/
def Reason.remedy : Reason → Kind
  | .unexpected => .identifier
  | .identifier => .identifier
  | .identifierAfterInt => .identifier
  | .semicolonAfterDeclaration => .semicolon
  | .assignAfterIdentifier => .assign
  | .semicolonAfterExpression => .semicolon
  | .parenAfterIf => .lparen
  | .parenAfterCondition => .rparen
  | .braceAfterCondition => .lbrace
  | .braceAfterStatements => .rbrace
  | .tooDeep => .identifier

theorem Reason.remedy_ne_eof (reason : Reason) : reason.remedy ≠ .eof := by
  cases reason <;> decide

/-- Whether the token in front alone is to blame, wherever the rule is run. -/
def Reason.isLocal : Reason → Bool
  | .identifier => false
  | .braceAfterStatements => false
  | .tooDeep => false
  | _ => true

/-- The statements begun, latest first, are those that begin among the tokens read, and perhaps one
at the token found. -/
def Token.Reported (free : Bool) (read : List Token) (found : Token) (begun : List (Nat × Kind)) :
    Prop :=
  begun = (starts free 0 read).reverse ∨
    freeBehind free read = true ∧ found.kind ≠ .eof ∧
      begun = (read.length, found.kind) :: (starts free 0 read).reverse

/-- The values of a rule, each with its tokens; why it may stop, behind which tokens and in front of
which one; and whether a statement can begin where it begins, and where it ends. -/
structure Task (α : Type) where
  yields : α → List Token → Prop
  refuses : Reason → List Token → Token → Prop
  free : Bool
  ends : Bool

variable {α β : Type}

abbrev Task.inside (yields : α → List Token → Prop) (ends : Bool) : Task α where
  yields := yields
  refuses reason _ _ := reason.isLocal = true
  free := false
  ends := ends

def Task.behind (task : Task α) (read : List Token) (free : Bool) : Task α where
  yields value more := task.yields value (read ++ more)
  refuses reason more := task.refuses reason (read ++ more)
  free := free
  ends := task.ends

/-- The value goes with the tokens read; or these, continued by any token of the kind asked for, can
be completed, and the token found is of another kind. -/
inductive Effect.Meets (task : Task α) (found : Token) : Effect α → Prop where
  | ok {read : List Token} {begun : List (Nat × Kind)} {value : α}
      (done : task.yields value read) (told : begun = (starts task.free 0 read).reverse)
      (ends : freeBehind task.free read = task.ends) : Meets task found ⟨read, begun, .ok value⟩
  | error {read : List Token} {begun : List (Nat × Kind)} {reason : Reason}
      (refused : task.refuses reason read found) (other : found.kind ≠ reason.remedy)
      (repair : ∀ token : Token, token.kind = reason.remedy →
        ∃ more value, task.yields value (read ++ token :: more))
      (told : Token.Reported task.free read found begun) :
      Meets task found ⟨read, begun, .error reason⟩

theorem Token.starts_eq_map_shift (free : Bool) (distance index : Nat) (read : List Token) :
    starts free (distance + index) read = (starts free index read).map (Effect.shift distance) := by
  induction read generalizing free index with
  | nil => rfl
  | cons token read ih =>
    rw [starts, starts, Nat.add_assoc, ih, List.map_append]
    split <;> rfl

theorem Token.reverse_starts_append {free middle : Bool} {read : List Token}
    (ends : freeBehind free read = middle) (more : List Token) :
    (starts free 0 (read ++ more)).reverse =
      (starts middle 0 more).reverse.map (Effect.shift read.length) ++
        (starts free 0 read).reverse := by
  have moved := starts_eq_map_shift middle read.length 0 more
  rw [starts_append, ends, List.reverse_append, Nat.zero_add, List.map_reverse, ← moved,
    Nat.add_zero]

theorem Token.reverse_starts_cons {token : Token} (other : token.kind ≠ .rbrace)
    (read : List Token) :
    (starts true 0 (token :: read)).reverse =
      (starts false 0 (token :: read)).reverse ++ [(0, token.kind)] := by
  simp [starts, other]

theorem Effect.map_shift_zero (begun : List (Nat × Kind)) : begun.map (shift 0) = begun := by
  have same : shift 0 = id := by
    funext start
    simp [shift]
  rw [same, List.map_id]

theorem Effect.Meets.andThen {task : Task β} {found : Token} {later : Effect β} (effect : Effect α)
    {free : Bool} (meets : later.Meets (task.behind effect.read free) found)
    (told : effect.begun = (starts task.free 0 effect.read).reverse)
    (ends : freeBehind task.free effect.read = free) :
    (effect.andThen later).Meets task found := by
  unfold Effect.andThen
  rw [told]
  cases meets with
  | @ok read begun value done also last =>
    refine .ok done ?_ ?_
    · rw [also]
      exact (Token.reverse_starts_append ends read).symm
    · rw [Token.freeBehind_append, ends]
      exact last
  | @error read begun reason refused other repair also =>
    refine .error refused other ?_ ?_
    · intro token kind
      obtain ⟨more, value, done⟩ := repair token kind
      refine ⟨more, value, ?_⟩
      rw [List.append_assoc]
      exact done
    · rcases also with also | ⟨begins, more, also⟩
      · rw [also]
        exact .inl (Token.reverse_starts_append ends read).symm
      · rw [also, Token.Reported, Token.freeBehind_append, ends, List.length_append,
          Token.reverse_starts_append ends]
        exact .inr ⟨begins, more, rfl⟩

theorem Effect.Meets.mono {narrow wide : Task α} {found : Token} {effect : Effect α}
    (meets : effect.Meets narrow found)
    (weaker : ∀ value read, narrow.yields value read → wide.yields value read)
    (allowed : ∀ reason read, narrow.refuses reason read found → wide.refuses reason read found)
    (free : narrow.free = wide.free) (ends : narrow.ends = wide.ends) :
    effect.Meets wide found := by
  cases meets with
  | ok done told last =>
    rw [free] at told last
    rw [ends] at last
    exact .ok (weaker _ _ done) told last
  | error refused other repair told =>
    rw [free] at told
    refine .error (allowed _ _ refused) other ?_ told
    intro token kind
    obtain ⟨more, value, done⟩ := repair token kind
    exact ⟨more, value, weaker _ _ done⟩

namespace Rule

def Reads (task : Task α) (rule : Rule α) (state : State) : Prop :=
  ∃ effect rest, Acts rule state effect rest ∧ effect.Meets task (Token.first rest)

variable {task : Task α} {rule : Rule α} {state after : State}

theorem Reads.mono {narrow wide : Task α} (reads : Reads narrow rule state)
    (weaker : ∀ value read, narrow.yields value read → wide.yields value read)
    (allowed : ∀ reason read found,
      narrow.refuses reason read found → wide.refuses reason read found)
    (free : narrow.free = wide.free) (ends : narrow.ends = wide.ends) : Reads wide rule state := by
  obtain ⟨effect, rest, acts, meets⟩ := reads
  exact ⟨effect, rest, acts, meets.mono weaker (fun reason read => allowed reason read _) free ends⟩

theorem Reads.exists_value (reads : Reads task rule state) : ∃ value read, task.yields value read := by
  obtain ⟨effect, rest, acts, meets⟩ := reads
  cases meets with
  | ok done told ends => exact ⟨_, _, done⟩
  | @error read begun reason refused other repair told =>
    obtain ⟨more, value, done⟩ := repair ⟨reason.remedy, ""⟩ rfl
    exact ⟨value, _, done⟩

/-- Where a rule that reads for a task succeeds, the tokens read are those in front of the rest. -/
theorem Reads.exists_read {value : α} (reads : Reads task rule state)
    (ran : rule.run state = .ok value after) :
    ∃ read, task.yields value read ∧ state.ahead = read ++ after.ahead ∧
      after.depth = state.depth ∧ after.position = state.position + read.length := by
  obtain ⟨effect, rest, acts, meets⟩ := reads
  rw [acts.run] at ran
  cases meets with
  | ok done told ends =>
    cases ran
    exact ⟨_, done, acts.ahead, rfl, rfl⟩
  | error refused other repair told => cases ran

/-- A state in which reading goes on behind a value: the one in which the rule yields it, or one at
the end of all tokens. -/
structure Behind (rule : Rule α) (state : State) (value : α) (read : List Token) (after : State) :
    Prop where
  depth : after.depth = state.depth
  shorter : after.ahead.length ≤ state.ahead.length - read.length
  ran : rule.run state = .ok value after ∨ after.ahead = []

/-- Both rules together read for a task when the second one reads for what the values and tokens of
the first leave of it. -/
theorem reads_bind {part : α → List Token → Prop} {task : Task β} {next : α → Rule β}
    {middle : Bool} (head : Reads ⟨part, task.refuses, task.free, middle⟩ rule state)
    (tail : ∀ value read after, part value read → Behind rule state value read after →
      Reads (task.behind read middle) (next value) after) : Reads task (rule >>= next) state := by
  obtain ⟨effect, rest, acts, meets⟩ := head
  cases meets with
  | @ok read begun value done told ends =>
    have shorter : rest.length ≤ state.ahead.length - read.length := by
      have split : state.ahead = read ++ rest := acts.ahead
      rw [split, List.length_append]
      omega
    obtain ⟨later, last, goesOn, met⟩ := tail value read
      (Effect.after ⟨read, begun, .ok value⟩ state rest) done ⟨rfl, shorter, .inl acts.run⟩
    exact ⟨_, last, acts_bind acts rfl goesOn, met.andThen _ told ends⟩
  | @error read begun reason refused other repair told =>
    refine ⟨_, rest, acts_bind_error acts rfl, .error refused other ?_ told⟩
    intro token kind
    obtain ⟨more, value, done⟩ := repair token kind
    -- What is repaired is then completed by the rest of the rule, run where no token is left.
    have goesOn := tail value _ ⟨0, [], state.depth, []⟩ done ⟨rfl, Nat.zero_le _, .inr rfl⟩
    obtain ⟨last, behind, whole⟩ := goesOn.exists_value
    change task.yields last ((read ++ token :: more) ++ behind) at whole
    rw [List.append_assoc] at whole
    exact ⟨more ++ behind, last, whole⟩

theorem reads_pure {value : α} (state : State) (holds : task.yields value [])
    (ends : task.free = task.ends) : Reads task (pure value) state :=
  ⟨_, _, acts_pure value state, .ok holds rfl ends⟩

theorem reads_refuse {reason : Reason} (refused : task.refuses reason [] state.current)
    (other : state.current.kind ≠ reason.remedy)
    (repair : ∀ token : Token, token.kind = reason.remedy →
      ∃ more value, task.yields value (token :: more)) :
    Reads task (refuse reason) state :=
  ⟨_, _, acts_refuse reason state, .error refused other repair (.inl rfl)⟩

theorem reads_current {next : Token → Rule α} (reads : Reads task (next state.current) state) :
    Reads task (current >>= next) state := by
  obtain ⟨effect, rest, acts, meets⟩ := reads
  exact ⟨effect, rest, acts_current acts, meets⟩

theorem reads_get {next : State → Rule α}
    (blind : ∀ other : State, other.depth = state.depth → next other = next state)
    (reads : Reads task (next state) state) : Reads task (get >>= next) state := by
  obtain ⟨effect, rest, acts, meets⟩ := reads
  exact ⟨effect, rest, acts_get blind acts, meets⟩

theorem reads_loop {loop : List Token → Rule α}
    (bounded : ∀ (room other : List Token) (begin : State), begin.ahead.length ≤ room.length →
      begin.ahead.length ≤ other.length → (loop room).run begin = (loop other).run begin)
    (each : ∀ room : List Token, state.ahead.length ≤ room.length → Reads task (loop room) state) :
    Reads task (get >>= fun seen => loop seen.ahead) state := by
  obtain ⟨effect, rest, acts, meets⟩ := each state.ahead (Nat.le_refl _)
  refine ⟨effect, rest, acts_loop bounded ?_ acts, meets⟩
  intro room enough
  obtain ⟨wide, behind, also, -⟩ := each room enough
  exact ⟨wide, behind, also⟩

theorem starts_singleton {free : Bool} {token : Token} (quiet : free = false ∨ token.kind = .rbrace) :
    starts free 0 [token] = [] := by
  rcases quiet with quiet | brace
  · simp [starts, quiet]
  · simp [starts, brace]

theorem reads_take {refuses : Reason → List Token → Token → Prop} {free ends : Bool}
    (more : state.current.kind ≠ .eof) (quiet : free = false ∨ state.current.kind = .rbrace)
    (joins : state.current.kind.separates = ends) :
    Reads ⟨fun token read => token = state.current ∧ read = [token], refuses, free, ends⟩ take
      state := by
  refine ⟨_, _, acts_take more, .ok ⟨rfl, rfl⟩ ?_ joins⟩
  rw [starts_singleton quiet, List.reverse_nil]

theorem reads_nested (reads : Reads task rule { state with depth := state.depth + 1 }) :
    Reads task (nested rule) state := by
  obtain ⟨effect, rest, acts, meets⟩ := reads
  exact ⟨effect, rest, acts_nested acts, meets⟩

theorem reads_expect {refuses : Reason → List Token → Token → Prop} {free : Bool} (kind : Kind)
    (reason : Reason) (state : State) (asked : reason.remedy = kind)
    (refused : state.current.kind ≠ kind → refuses reason [] state.current)
    (quiet : free = false ∨ kind = .rbrace) :
    Reads ⟨fun text read => read = [⟨kind, text⟩], refuses, free, kind.separates⟩
      (expect kind reason) state := by
  apply reads_current
  by_cases same : state.current.kind = kind
  · subst same
    rw [if_pos rfl]
    have more : state.current.kind ≠ .eof := asked ▸ reason.remedy_ne_eof
    apply reads_bind (reads_take more quiet rfl)
    intro token read after met _
    obtain ⟨rfl, rfl⟩ := met
    exact reads_pure _ rfl rfl
  · rw [if_neg same]
    refine reads_refuse (refused same) (asked ▸ same) ?_
    intro token named
    obtain ⟨found, text⟩ := token
    refine ⟨[], text, ?_⟩
    rw [← asked, ← named]

theorem reads_announce {next : Unit → Rule α} (begins : task.free = true)
    (filled : ∀ value read, task.yields value read →
      ∃ token rest, read = token :: rest ∧ token.kind ≠ .rbrace)
    (more : state.current.kind ≠ .eof)
    (reads : Reads { task with free := false } (next ())
      { state with log := .statement state.position state.current.kind :: state.log }) :
    Reads task (announce >>= next) state := by
  obtain ⟨effect, rest, acts, meets⟩ := reads
  have split : state.ahead = effect.read ++ rest := acts.ahead
  refine ⟨_, rest, acts_bind (acts_announce state) rfl acts, ?_⟩
  unfold Effect.andThen
  rw [List.nil_append, List.length_nil, Effect.map_shift_zero]
  cases meets with
  | @ok read begun value done told ends =>
    obtain ⟨token, behind, rfl, other⟩ := filled value read done
    have here : state.current = token := by rw [State.current, split]; rfl
    refine .ok done ?_ ends
    rw [told, begins, here]
    exact (Token.reverse_starts_cons other behind).symm
  | @error read begun reason refused other repair told =>
    refine .error refused other repair ?_
    cases read with
    | nil =>
      rcases told with told | ⟨begun, -⟩
      · have here : state.current = Token.first rest := by rw [State.current, split]; rfl
        rw [told, ← here]
        exact .inr ⟨begins, more, rfl⟩
      · cases begun
    | cons token behind =>
      obtain ⟨word, value, done⟩ := repair ⟨reason.remedy, ""⟩ rfl
      obtain ⟨first, rest, same, other⟩ := filled _ _ done
      cases same
      have here : state.current = token := by rw [State.current, split]; rfl
      rw [here, Token.Reported, begins, Token.reverse_starts_cons other]
      rcases told with told | ⟨free, more, told⟩
      · exact .inl (congrArg (· ++ [_]) told)
      · exact .inr ⟨free, more, congrArg (· ++ [_]) told⟩

end Rule
end StatementParser
