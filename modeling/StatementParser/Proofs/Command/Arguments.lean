import Mathlib.Data.Option.Basic
import StatementParser.Command.Interface

/-!
What is relied on of a matcher, and what an invocation is made of. Words that only give the flag may
stand on either side of the action, and a matcher counts them; next to an action it finds one path.
-/
namespace StatementParser.Command

/-- The word gives the flag so many times: once by its name, or once for each letter. -/
inductive Flag.Gives (flag : Flag) : Nat → String → Prop where
  | name : flag.Gives 1 ("--" ++ flag.name)
  | letters (more : Nat) :
      flag.Gives (more + 1) (String.ofList ('-' :: List.replicate (more + 1) flag.letter))

/-- A word that is no flag wherever it stands: a hyphen alone, or one that begins with none. -/
def Bare (word : String) : Prop :=
  word = "-" ∨ word.toList.head? ≠ some '-'

/-- A word behind a hyphen that does not only give the flag, nor end the flags. -/
structure Flag.Stray (flag : Flag) (word : String) : Prop where
  not_bare : ¬Bare word
  ne_separator : word ≠ "--"
  not_gives : ∀ count, ¬flag.Gives count word

namespace Matcher

def accepts (matcher : Matcher) (interface : Interface) (arguments : List String) : Option Matches :=
  (matcher.run interface arguments).toOption

/-- What is documented of a matcher, for every interface: how each word is taken that stands in
front of others, what no word at all comes to, and which side of a choice the flag is counted on. -/
structure Documented (matcher : Matcher) : Prop where
  flag : ∀ interface count word rest, interface.flag.Gives count word →
    matcher.accepts interface (word :: rest) =
      (matcher.accepts interface rest).map (Matches.raise count)
  stray : ∀ interface word rest, interface.flag.Stray word →
    matcher.accepts interface (word :: rest) = none
  operand : ∀ interface operand required word rest,
    interface.shape = .operands (operand :: required) → Bare word →
      matcher.accepts interface (word :: rest) =
        (matcher.accepts { interface with shape := .operands required } rest).map
          (Matches.give word)
  surplus : ∀ interface word rest, interface.shape = .operands [] → Bare word →
    matcher.accepts interface (word :: rest) = none
  choice : ∀ interface offered word rest, interface.shape = .choices offered → Bare word →
    matcher.accepts interface (word :: rest) =
      (interface.choose? offered word).bind fun chosen =>
        (matcher.accepts chosen rest).map (Matches.choice 0 word)
  separator : ∀ interface required rest, interface.shape = .operands required →
    matcher.accepts interface ("--" :: rest) =
      if rest.length = required.length then some (.operands 0 rest) else none
  unchosen : ∀ interface offered rest, interface.shape = .choices offered →
    matcher.accepts interface ("--" :: rest) = none
  complete : ∀ interface, interface.shape = .operands [] →
    matcher.accepts interface [] = some (.operands 0 [])
  missing_operand : ∀ interface operand required,
    interface.shape = .operands (operand :: required) → matcher.accepts interface [] = none
  missing_choice : ∀ interface offered, interface.shape = .choices offered →
    matcher.accepts interface [] = none
  count : ∀ before name after values,
    matcher.count (.choice before name (.operands after values)) =
      min 255 (if after = 0 then before else after)

end Matcher

theorem word_cases (flag : Flag) (word : String) :
    word = "--" ∨ (∃ count, flag.Gives count word) ∨ Bare word ∨ flag.Stray word := by
  by_cases separator : word = "--"
  · exact .inl separator
  · by_cases gives : ∃ count, flag.Gives count word
    · exact .inr (.inl gives)
    · by_cases bare : Bare word
      · exact .inr (.inr (.inl bare))
      · exact .inr (.inr (.inr ⟨bare, separator, fun count also => gives ⟨count, also⟩⟩))

/-- The words are verbosity flags, and the flag is given so many times. A word may give it once by
its name or any number of times by its letter. -/
inductive Flags : Nat → List String → Prop where
  | nil : Flags 0 []
  | long {count : Nat} {rest : List String} (others : Flags count rest) :
      Flags (1 + count) ("--verbose" :: rest)
  | letters (more : Nat) {count : Nat} {rest : List String} (others : Flags count rest) :
      Flags (more + 1 + count) (String.ofList ('-' :: List.replicate (more + 1) 'v') :: rest)

namespace Flags

variable {count weight : Nat} {word : String} {flags : List String}

theorem cons (gives : interface.flag.Gives weight word) (others : Flags count flags) :
    Flags (weight + count) (word :: flags) := by
  cases gives with
  | name => exact .long others
  | letters more => exact .letters more others

theorem exists_cons (given : Flags count (word :: flags)) :
    ∃ weight others, interface.flag.Gives weight word ∧ Flags others flags ∧
      count = weight + others := by
  cases given with
  | long others => exact ⟨1, _, .name, others, rfl⟩
  | letters more others => exact ⟨more + 1, _, .letters more, others, rfl⟩

theorem eq_zero_iff (given : Flags count flags) : count = 0 ↔ flags = [] := by
  cases given with
  | nil => simp
  | long others => simp
  | letters more others => simp

end Flags

/-- The words behind an action are these flags and these paths, mixed in any way. Behind two hyphens
there are no flags any more, and every word is a path. -/
inductive Tail : List String → List String → List String → Prop where
  | nil : Tail [] [] []
  | separator (paths : List String) : Tail [] paths ("--" :: paths)
  | flag (word : String) {flags paths words : List String} (others : Tail flags paths words) :
      Tail (word :: flags) paths (word :: words)
  | path {word : String} (bare : Bare word) {flags paths words : List String}
      (others : Tail flags paths words) : Tail flags (word :: paths) (word :: words)

theorem Matches.raise_zero (found : Matches) : found.raise 0 = found := by
  cases found with
  | operands count values => rw [raise, Nat.zero_add]
  | choice count name inner => rw [raise, Nat.zero_add]

theorem Matches.raise_raise (found : Matches) (more less : Nat) :
    (found.raise less).raise more = found.raise (more + less) := by
  cases found with
  | operands count values => simp only [raise, Nat.add_assoc]
  | choice count name inner => simp only [raise, Nat.add_assoc]

theorem Action.ofName?_name (action : Action) : ofName? action.name = some action := by
  cases action with
  | parse => rfl
  | check => rfl

theorem Action.eq_name_of_ofName? {name : String} {action : Action}
    (found : ofName? name = some action) : name = action.name := by
  unfold ofName? at found
  split at found
  next same =>
    cases found
    exact same
  next =>
    split at found
    next same =>
      cases found
      exact same
    next => cases found

theorem Action.bare_name (action : Action) : Bare action.name := by
  cases action with
  | parse => exact .inr (by decide)
  | check => exact .inr (by decide)

def behind (action : Action) : Interface :=
  ⟨"tinyc " ++ action.name, action.about, none, interface.flag,
    .operands [⟨"PATH", "Input token listing"⟩]⟩

def offered : List (String × String × Shape) :=
  Action.all.map fun action =>
    (action.name, action.about, .operands [⟨"PATH", "Input token listing"⟩])

theorem shape_interface : interface.shape = .choices offered := rfl

theorem choose?_name (action : Action) :
    interface.choose? offered action.name = some (behind action) := by
  cases action with
  | parse => rfl
  | check => rfl

theorem of_choose? {word : String} {chosen : Interface}
    (found : interface.choose? offered word = some chosen) :
    ∃ action : Action, word = action.name ∧ chosen = behind action := by
  obtain ⟨choice, listed, rfl⟩ := Option.map_eq_some_iff.mp found
  rw [offered, Action.all, List.map_cons, List.map_cons, List.map_nil, List.lookup_cons,
    List.lookup_cons, List.lookup_nil] at listed
  split at listed
  next same =>
    cases listed
    exact ⟨.parse, beq_iff_eq.mp same, by rw [beq_iff_eq.mp same]; rfl⟩
  next =>
    split at listed
    next same =>
      cases listed
      exact ⟨.check, beq_iff_eq.mp same, by rw [beq_iff_eq.mp same]; rfl⟩
    next => cases listed

section

variable {matcher : Matcher} (documented : matcher.Documented)

include documented

theorem accepts_flags {count : Nat} {flags : List String} (given : Flags count flags)
    {interface : Interface} (same : interface.flag = Command.interface.flag) (rest : List String) :
    matcher.accepts interface (flags ++ rest) =
      (matcher.accepts interface rest).map (Matches.raise count) := by
  have unraised : Matches.raise 0 = id := funext Matches.raise_zero
  induction flags generalizing count with
  | nil =>
    cases given
    rw [unraised, Option.map_id]
    rfl
  | cons word flags ih =>
    obtain ⟨weight, fewer, gives, others, rfl⟩ := given.exists_cons
    rw [← same] at gives
    rw [List.cons_append, documented.flag _ _ _ _ gives, ih others, Option.map_map]
    congr 1
    funext found
    exact found.raise_raise weight fewer

theorem tail_of_accepts (interface : Interface) {required : List Operand} {words : List String}
    {found : Matches} (shape : interface.shape = .operands required)
    (same : interface.flag = Command.interface.flag)
    (accepts : matcher.accepts interface words = some found) :
    ∃ count flags values, Flags count flags ∧ Tail flags values words ∧
      values.length = required.length ∧ found = .operands count values := by
  induction words generalizing interface required found with
  | nil =>
    cases required with
    | nil =>
      rw [documented.complete _ shape] at accepts
      cases accepts
      exact ⟨0, [], [], .nil, .nil, rfl, rfl⟩
    | cons operand required =>
      rw [documented.missing_operand _ _ _ shape] at accepts
      cases accepts
  | cons word rest ih =>
    rcases word_cases interface.flag word with rfl | ⟨weight, gives⟩ | bare | stray
    · rw [documented.separator _ _ _ shape] at accepts
      split at accepts
      next length =>
        cases accepts
        exact ⟨0, [], rest, .nil, .separator rest, length, rfl⟩
      next => cases accepts
    · rw [documented.flag _ _ _ _ gives] at accepts
      obtain ⟨inner, goesOn, rfl⟩ := Option.map_eq_some_iff.mp accepts
      obtain ⟨count, flags, values, given, tail, length, rfl⟩ := ih interface shape same goesOn
      rw [same] at gives
      exact ⟨weight + count, word :: flags, values, .cons gives given, .flag word tail, length, rfl⟩
    · cases required with
      | nil =>
        rw [documented.surplus _ _ _ shape bare] at accepts
        cases accepts
      | cons operand required =>
        rw [documented.operand _ _ _ _ _ shape bare] at accepts
        obtain ⟨inner, goesOn, rfl⟩ := Option.map_eq_some_iff.mp accepts
        obtain ⟨count, flags, values, given, tail, length, rfl⟩ :=
          ih { interface with shape := .operands required } rfl same goesOn
        exact ⟨count, flags, word :: values, given, .path bare tail, congrArg Nat.succ length, rfl⟩
    · rw [documented.stray _ _ _ stray] at accepts
      cases accepts

theorem accepts_of_tail (interface : Interface) {required : List Operand} {count : Nat}
    {flags values words : List String} (shape : interface.shape = .operands required)
    (same : interface.flag = Command.interface.flag) (given : Flags count flags)
    (tail : Tail flags values words) (length : values.length = required.length) :
    matcher.accepts interface words = some (.operands count values) := by
  induction tail generalizing interface required count with
  | nil =>
    obtain rfl := List.eq_nil_of_length_eq_zero length.symm
    cases given
    exact documented.complete _ shape
  | separator paths =>
    cases given
    rw [documented.separator _ _ _ shape, if_pos length]
  | flag word others ih =>
    obtain ⟨weight, fewer, gives, behind, rfl⟩ := given.exists_cons
    rw [← same] at gives
    rw [documented.flag _ _ _ _ gives, ih interface shape same behind length]
    rfl
  | path bare others ih =>
    cases required with
    | nil => cases length
    | cons operand required =>
      have behind := ih { interface with shape := .operands required } rfl same given
        (Nat.succ.inj length)
      rw [documented.operand _ _ _ _ _ shape bare, behind]
      rfl

theorem front_of_accepts {words : List String} {found : Matches}
    (accepts : matcher.accepts interface words = some found) :
    ∃ count front action rest inner, words = front ++ Action.name action :: rest ∧
      Flags count front ∧ matcher.accepts (behind action) rest = some inner ∧
      found = .choice count action.name inner := by
  induction words generalizing found with
  | nil =>
    rw [documented.missing_choice _ _ shape_interface] at accepts
    cases accepts
  | cons word rest ih =>
    rcases word_cases interface.flag word with rfl | ⟨weight, gives⟩ | bare | stray
    · rw [documented.unchosen _ _ _ shape_interface] at accepts
      cases accepts
    · rw [documented.flag _ _ _ _ gives] at accepts
      obtain ⟨middle, goesOn, rfl⟩ := Option.map_eq_some_iff.mp accepts
      obtain ⟨count, front, action, tail, inner, rfl, given, behind, rfl⟩ := ih goesOn
      exact ⟨weight + count, word :: front, action, tail, inner, rfl, .cons gives given, behind, rfl⟩
    · rw [documented.choice _ _ _ _ shape_interface bare] at accepts
      obtain ⟨chosen, choice, goesOn⟩ := Option.bind_eq_some_iff.mp accepts
      obtain ⟨inner, behind, rfl⟩ := Option.map_eq_some_iff.mp goesOn
      obtain ⟨action, rfl, rfl⟩ := of_choose? choice
      exact ⟨0, [], action, rest, inner, rfl, .nil, behind, rfl⟩
    · rw [documented.stray _ _ _ stray] at accepts
      cases accepts

theorem accepts_front {count : Nat} {front rest : List String} {inner : Matches} (action : Action)
    (given : Flags count front) (accepts : matcher.accepts (behind action) rest = some inner) :
    matcher.accepts interface (front ++ action.name :: rest) =
      some (.choice count action.name inner) := by
  rw [accepts_flags documented given rfl, documented.choice _ _ _ _ shape_interface action.bare_name,
    choose?_name, Option.bind_some, accepts]
  rfl

theorem invocation_eq_ok_iff {arguments : List String} {invocation : Invocation} :
    matcher.invocation arguments = .ok invocation ↔
      ∃ before after, matcher.accepts interface arguments =
          some (.choice before invocation.action.name (.operands after [invocation.path])) ∧
        invocation.verbosity = min 255 (if after = 0 then before else after) := by
  obtain ⟨verbosity, action, path⟩ := invocation
  rw [Matcher.invocation, Matcher.accepts]
  cases run : matcher.run interface arguments with
  | error refusal => simp [Except.toOption]
  | ok found =>
    simp only [Except.toOption, Option.some.injEq]
    constructor
    · intro done
      have fits : Invocation.ofMatches? (matcher.count found) found = some ⟨verbosity, action, path⟩ := by
        cases result : Invocation.ofMatches? (matcher.count found) found with
        | none =>
          simp only [result] at done
          cases done
        | some other =>
          simp only [result] at done
          cases done
          rfl
      unfold Invocation.ofMatches? at fits
      split at fits
      next before name after word =>
        obtain ⟨other, named, same⟩ := Option.map_eq_some_iff.mp fits
        cases same
        rw [documented.count]
        exact ⟨before, after, by rw [Action.eq_name_of_ofName? named], rfl⟩
      next => cases fits
    · rintro ⟨before, after, rfl, total⟩
      simp only [Invocation.ofMatches?, Action.ofName?_name, documented.count, Option.map_some, total]

theorem accepts_behind_iff {action : Action} {words : List String} {found : Matches} :
    matcher.accepts (behind action) words = some found ↔
      ∃ count flags path, Flags count flags ∧ Tail flags [path] words ∧
        found = .operands count [path] := by
  constructor
  · intro accepts
    obtain ⟨count, flags, values, given, tail, length, rfl⟩ :=
      tail_of_accepts documented (behind action) rfl rfl accepts
    obtain ⟨path, rfl⟩ := List.length_eq_one_iff.mp length
    exact ⟨count, flags, path, given, tail, rfl⟩
  · rintro ⟨count, flags, path, given, tail, rfl⟩
    exact accepts_of_tail documented (behind action) rfl rfl given tail rfl

theorem invocation_of_pair (action : Action) {path : String} {invocation : Invocation}
    (accepts : matcher.invocation [action.name, path] = .ok invocation) :
    invocation = ⟨0, action, path⟩ := by
  obtain ⟨verbosity, other, word⟩ := invocation
  obtain ⟨before, after, found, rfl⟩ := (invocation_eq_ok_iff documented).mp accepts
  rw [documented.choice _ _ _ _ shape_interface action.bare_name, choose?_name] at found
  obtain ⟨inner, goesOn, same⟩ := Option.map_eq_some_iff.mp found
  obtain ⟨count, flags, only, given, tail, rfl⟩ := (accepts_behind_iff documented).mp goesOn
  cases tail with
  | flag first others => cases others
  | path bare others =>
    cases others
    cases given
    injection same with unraised name inner
    cases inner
    have named := Action.ofName?_name action
    rw [name, Action.ofName?_name] at named
    cases named
    cases unraised
    rfl

end
end StatementParser.Command
