import Mathlib.Data.List.TakeWhile
import StatementParser.Proofs.Command.Arguments
import StatementParser.Terminal.Help

/-!
The matcher of the terminal does what is documented of matchers. Of what it reads only the part that
is accepted counts here, and that depends neither on the texts of an interface nor on what was read
before.
-/
namespace StatementParser.Terminal

open Command (Bare Flag Interface Matches Operand Shape)

section Word

variable {word : String}

theorem eq_of_separator (shape : Word.of word = .separator) : word = "--" := by
  rw [← String.toList_inj]
  unfold Word.of Word.ofChars at shape
  split at shape
  next same => exact same
  next => cases shape
  next => cases shape
  next => cases shape

theorem toList_of_long {name : List Char} (shape : Word.of word = .long name false) :
    word.toList = '-' :: '-' :: name := by
  unfold Word.of Word.ofChars at shape
  split at shape
  next => cases shape
  next rest _ same =>
    injection shape with cut whole
    have inner : ∀ c ∈ rest, (c != '=') = true := by
      intro c member
      rw [bne_iff_ne]
      rintro rfl
      rw [List.contains_iff_mem.mpr member] at whole
      cases whole
    rw [same, ← cut, List.takeWhile_eq_self_iff.mpr inner]
  next => cases shape
  next => cases shape

theorem toList_of_letters {letters : List Char} (shape : Word.of word = .letters letters) :
    word.toList = '-' :: letters ∧ letters ≠ [] := by
  unfold Word.of Word.ofChars at shape
  split at shape
  next => cases shape
  next => cases shape
  next same =>
    cases shape
    exact ⟨same, List.cons_ne_nil _ _⟩
  next => cases shape

theorem plain_iff_bare : Word.of word = .plain ↔ Bare word := by
  rw [Bare, ← String.toList_inj]
  unfold Word.of Word.ofChars
  split
  next same => simp [same]
  next same => simp [same]
  next same => simp [same]
  next not_separator not_long not_letters =>
    simp only [true_iff]
    cases chars : word.toList with
    | nil => simp
    | cons first rest =>
      by_cases hyphen : first = '-'
      · subst hyphen
        cases rest with
        | nil => exact .inl rfl
        | cons letter rest => exact absurd chars (not_letters letter rest)
      · simp [hyphen]

theorem word_of_name (flag : Flag) : Word.of ("--" ++ flag.name) = .long flag.name.toList false := by
  have chars : ("--" ++ flag.name).toList = '-' :: '-' :: flag.name.toList := by
    rw [String.toList_append]
    rfl
  have whole : flag.name.toList.takeWhile (· != '=') = flag.name.toList := by
    rw [List.takeWhile_eq_self_iff]
    intro c member
    rw [bne_iff_ne]
    rintro rfl
    exact flag.name_plain member
  have valueless : flag.name.toList.contains '=' = false := by
    rw [Bool.eq_false_iff, ne_eq, List.contains_iff_mem]
    exact flag.name_plain
  rw [Word.of, chars]
  cases name : flag.name.toList with
  | nil => exact absurd (String.toList_inj.mp name) flag.name_ne
  | cons first rest =>
    rw [name] at whole valueless
    rw [Word.ofChars, whole, valueless]
    intro impossible
    cases impossible

theorem word_of_replicate (flag : Flag) (more : Nat) :
    Word.of (String.ofList ('-' :: List.replicate (more + 1) flag.letter)) =
      .letters (List.replicate (more + 1) flag.letter) := by
  rw [Word.of, String.toList_ofList, List.replicate_succ]
  unfold Word.ofChars
  split
  next same =>
    injection same with _ rest
    injection rest with letter
    exact absurd letter flag.letter_ne
  next same =>
    injection same with _ rest
    injection rest with letter
    exact absurd letter flag.letter_ne
  next same =>
    injection same with _ rest
    rw [rest]
  next _ _ others => exact absurd rfl (others _ _)

end Word

namespace Arguments

theorem toOption_bind {α β : Type} (first : Except Halt α) (next : α → Except Halt β) :
    (first >>= next).toOption = first.toOption.bind fun value => (next value).toOption := by
  cases first with
  | error halt => rfl
  | ok value => rfl

theorem toOption_readFlag (interface : Interface) (meaning : Option Meaning) :
    (readFlag interface meaning).toOption = if meaning = some .count then some () else none := by
  cases meaning with
  | none => rfl
  | some meaning => cases meaning <;> rfl

theorem longFlag?_eq_count_iff {interface : Interface} {name : List Char} :
    longFlag? interface name = some .count ↔ name = interface.flag.name.toList := by
  rw [longFlag?, Option.filter_eq_some_iff]
  split_ifs with counted help version <;> simp [counted, accepts]

theorem letterFlag?_eq_count_iff {interface : Interface} {letter : Char} :
    letterFlag? interface letter = some .count ↔ letter = interface.flag.letter := by
  rw [letterFlag?, Option.filter_eq_some_iff]
  split_ifs with counted help version <;> simp [counted, accepts]

theorem toOption_readLong (interface : Interface) (name : List Char) (hasValue : Bool) :
    (readLong interface name hasValue).toOption =
      if name = interface.flag.name.toList ∧ hasValue = false then some () else none := by
  rw [readLong]
  cases hasValue with
  | false => simp [toOption_readFlag, longFlag?_eq_count_iff]
  | true =>
    cases meaning : longFlag? interface name with
    | none => simp [readFlag, Except.toOption]
    | some found => simp [Except.toOption]

theorem toOption_readLetters (interface : Interface) (letters : List Char) :
    (readLetters interface letters).toOption =
      if letters.all (· = interface.flag.letter) then some () else none := by
  induction letters with
  | nil => rfl
  | cons letter rest ih =>
    rw [readLetters, toOption_bind, toOption_readFlag, ih]
    by_cases counted : letter = interface.flag.letter
    · rw [if_pos (letterFlag?_eq_count_iff.mpr counted), Option.bind_some]
      simp only [List.all_cons, counted, decide_true, Bool.true_and]
    · rw [if_neg (mt letterFlag?_eq_count_iff.mp counted), Option.bind_none]
      simp only [List.all_cons, counted, decide_false, Bool.false_and, Bool.false_eq_true, if_false]

theorem toOption_readFrom_eq (interface other : Interface) (same : interface.flag = other.flag)
    (first second : Bool) (shape : Shape) (words : List String) :
    (readFrom interface first shape words).toOption =
      (readFrom other second shape words).toOption := by
  induction words generalizing interface other first second shape with
  | nil =>
    simp only [readFrom]
    cases shape with
    | operands required => cases required <;> rfl
    | choices offered => rfl
  | cons word rest ih =>
    simp only [readFrom]
    cases Word.of word with
    | separator =>
      cases shape with
      | operands required => rfl
      | choices offered => cases rest <;> rfl
    | long name hasValue =>
      simp only [toOption_bind, toOption_readLong, same, ih interface other same false false]
    | letters letters =>
      simp only [toOption_bind, toOption_readLetters, same, ih interface other same false false]
    | plain =>
      cases shape with
      | operands required =>
        cases required with
        | nil => rfl
        | cons operand required => simp only [toOption_bind, ih interface other same false false]
      | choices offered =>
        simp only [Interface.choose?]
        cases offered.lookup word with
        | none => rfl
        | some choice =>
          simp only [Option.map_some, toOption_bind]
          congr 1
          apply ih
          exact same

section

variable {interface : Interface} {word : String} {rest : List String} {first : Bool} {shape : Shape}

theorem toOption_map (found : Except Halt Matches) (change : Matches → Matches) :
    (found >>= fun found => pure (change found)).toOption = found.toOption.map change := by
  cases found with
  | error halt => rfl
  | ok found => rfl

theorem toOption_readFrom_flag {count : Nat} (gives : interface.flag.Gives count word) :
    (readFrom interface first shape (word :: rest)).toOption =
      (readFrom interface first shape rest).toOption.map (Matches.raise count) := by
  rw [toOption_readFrom_eq interface interface rfl first false shape rest]
  simp only [readFrom]
  cases gives with
  | name =>
    have named : (readLong interface interface.flag.name.toList false).toOption = some () := by
      rw [toOption_readLong, if_pos ⟨rfl, rfl⟩]
    simp only [word_of_name]
    rw [toOption_bind, named]
    exact toOption_map _ _
  | letters more =>
    have all : (List.replicate (more + 1) interface.flag.letter).all
        (· = interface.flag.letter) = true := by simp
    simp only [word_of_replicate, List.length_replicate]
    rw [toOption_bind, toOption_readLetters, if_pos all]
    exact toOption_map _ _

theorem toOption_readFrom_stray (stray : interface.flag.Stray word) :
    (readFrom interface first shape (word :: rest)).toOption = none := by
  simp only [readFrom]
  cases kind : Word.of word with
  | separator => exact absurd (eq_of_separator kind) stray.ne_separator
  | plain => exact absurd (plain_iff_bare.mp kind) stray.not_bare
  | long name hasValue =>
    have other : ¬(name = interface.flag.name.toList ∧ hasValue = false) := by
      rintro ⟨rfl, rfl⟩
      have spelt : word = "--" ++ interface.flag.name := by
        rw [← String.toList_inj, toList_of_long kind, String.toList_append]
        rfl
      exact stray.not_gives 1 (spelt ▸ .name)
    simp only [toOption_bind, toOption_readLong, if_neg other, Option.bind_none]
  | letters letters =>
    have other : ¬letters.all (· = interface.flag.letter) = true := by
      intro counted
      have all : ∀ letter ∈ letters, letter = interface.flag.letter := by simpa using counted
      obtain ⟨chars, filled⟩ := toList_of_letters kind
      obtain ⟨more, length⟩ := Nat.exists_eq_succ_of_ne_zero (mt List.eq_nil_of_length_eq_zero filled)
      have spelt : word = String.ofList ('-' :: List.replicate (more + 1) interface.flag.letter) := by
        rw [← String.toList_inj, chars, String.toList_ofList, ← Nat.succ_eq_add_one, ← length,
          List.eq_replicate_of_mem all, List.length_replicate]
      exact stray.not_gives (more + 1) (spelt ▸ .letters more)
    simp only [toOption_bind, toOption_readLetters, if_neg other, Option.bind_none]

theorem toOption_readFrom_operand {operand : Operand} {required : List Operand} (bare : Bare word) :
    (readFrom interface first (.operands (operand :: required)) (word :: rest)).toOption =
      (readFrom interface first (.operands required) rest).toOption.map (Matches.give word) := by
  rw [toOption_readFrom_eq interface interface rfl first false (.operands required) rest]
  simp only [readFrom, plain_iff_bare.mpr bare]
  exact toOption_map _ _

theorem toOption_readFrom_choice {offered : List (String × String × Shape)} (bare : Bare word) :
    (readFrom interface first (.choices offered) (word :: rest)).toOption =
      (interface.choose? offered word).bind fun chosen =>
        (readFrom chosen true chosen.shape rest).toOption.map (Matches.choice 0 word) := by
  simp only [readFrom, plain_iff_bare.mpr bare]
  cases interface.choose? offered word with
  | none => rfl
  | some chosen => exact toOption_map _ _

end

theorem toOption_readOperands (required : List Operand) (words : List String) :
    (readOperands required words).toOption =
      if words.length = required.length then some (.operands 0 words) else none := by
  induction required generalizing words with
  | nil =>
    cases words with
    | nil => rfl
    | cons word rest => rfl
  | cons operand required ih =>
    cases words with
    | nil => rfl
    | cons word rest =>
      rw [readOperands, toOption_map, ih]
      by_cases length : rest.length = required.length
      · simp [length, Matches.give]
      · simp [length]

end Arguments

theorem accepts_matcher (interface : Interface) (words : List String) :
    matcher.accepts interface words =
      (Arguments.readFrom interface true interface.shape words).toOption := by
  change ((Arguments.read interface words).mapError Halt.refusal).toOption =
    (Arguments.read interface words).toOption
  cases Arguments.read interface words with
  | error halt => rfl
  | ok found => rfl

/-- The matcher of the terminal does what is documented. -/
theorem documented_matcher : matcher.Documented where
  flag interface count word rest gives := by
    rw [accepts_matcher, accepts_matcher, Arguments.toOption_readFrom_flag gives]
  stray interface word rest stray := by
    rw [accepts_matcher, Arguments.toOption_readFrom_stray stray]
  operand interface operand required word rest shape bare := by
    rw [accepts_matcher, accepts_matcher, shape, Arguments.toOption_readFrom_operand bare]
    congr 1
    apply Arguments.toOption_readFrom_eq
    rfl
  surplus interface word rest shape bare := by
    rw [accepts_matcher, shape]
    simp only [Arguments.readFrom, plain_iff_bare.mpr bare]
    rfl
  choice interface offered word rest shape bare := by
    simp only [accepts_matcher, shape]
    exact Arguments.toOption_readFrom_choice bare
  separator interface required rest shape := by
    rw [accepts_matcher, shape]
    exact Arguments.toOption_readOperands required rest
  unchosen interface offered rest shape := by
    rw [accepts_matcher, shape]
    cases rest with
    | nil => rfl
    | cons word rest => rfl
  complete interface shape := by
    rw [accepts_matcher, shape]
    rfl
  missing_operand interface operand required shape := by
    rw [accepts_matcher, shape]
    rfl
  missing_choice interface offered shape := by
    rw [accepts_matcher, shape]
    rfl
  count before name after values := by
    change (if min 255 after = 0 then min 255 before else min 255 after) = _
    split
    next unflagged => rw [if_pos (by omega)]
    next flagged => rw [if_neg (by omega)]

end StatementParser.Terminal
