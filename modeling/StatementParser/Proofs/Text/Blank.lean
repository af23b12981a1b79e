import Mathlib.Data.List.TakeWhile
import StatementParser.Proofs.Text.Cut
import StatementParser.Text.Blank

/-!
Trimming leaves a text without blanks at its ends, and such a text is left as it is. Lines are what
stands between line feeds: they hold none, and lines put together with line feeds come apart again.
-/
namespace StatementParser.Text

/-- No blank stands at either end of the text. -/
structure Trimmed (text : List Char) : Prop where
  first : ∀ c ∈ text.head?, isBlank c = false
  last : ∀ c ∈ text.getLast?, isBlank c = false

theorem trimmed_of_solid {text : List Char} (solid : ∀ c ∈ text, isBlank c = false) :
    Trimmed text :=
  ⟨fun c first => solid c (List.mem_of_mem_head? first),
    fun c last => solid c (List.mem_of_getLast? last)⟩

theorem no_feed_of_solid {text : List Char} (solid : ∀ c ∈ text, isBlank c = false) :
    '\n' ∉ text := by
  intro feed
  have plain := solid '\n' feed
  revert plain
  decide

theorem head?_trimLeft (text : List Char) : ∀ c ∈ (trimLeft text).head?, isBlank c = false := by
  intro c first
  have stop := List.head?_dropWhile_not isBlank text
  rw [trimLeft] at first
  rw [Option.mem_def.mp first] at stop
  exact stop

theorem trimLeft_of_head? {text : List Char} (first : ∀ c ∈ text.head?, isBlank c = false) :
    trimLeft text = text := by
  cases text with
  | nil => rfl
  | cons c text => simp [trimLeft, first c rfl]

theorem trim_of_trimmed {text : List Char} (trimmed : Trimmed text) : trim text = text := by
  rw [trim, trimLeft_of_head? trimmed.first, trimRight, trimLeft_of_head?, List.reverse_reverse]
  rw [List.head?_reverse]
  exact trimmed.last

theorem trim_cons_of_blank {c : Char} (blank : isBlank c = true) (text : List Char) :
    trim (c :: text) = trim text := by
  simp [trim, trimLeft, blank]

theorem exists_trimRight_append (text : List Char) : ∃ rest, trimRight text ++ rest = text := by
  refine ⟨(text.reverse.takeWhile isBlank).reverse, ?_⟩
  rw [trimRight, trimLeft, ← List.reverse_append, List.takeWhile_append_dropWhile,
    List.reverse_reverse]

theorem trimmed_trim (text : List Char) : Trimmed (trim text) where
  first := by
    intro c first
    apply head?_trimLeft text c
    obtain ⟨rest, whole⟩ := exists_trimRight_append (trimLeft text)
    rw [← whole]
    change c ∈ (trim text ++ rest).head?
    cases kept : trim text with
    | nil =>
      rw [kept] at first
      cases first
    | cons d tail =>
      rw [kept] at first
      exact first
  last := by
    intro c last
    rw [trim, trimRight, List.getLast?_reverse] at last
    exact head?_trimLeft _ c last

theorem trim_subset (text : List Char) : trim text ⊆ text := by
  obtain ⟨rest, whole⟩ := exists_trimRight_append (trimLeft text)
  intro c member
  apply (List.dropWhile_sublist isBlank).subset
  change c ∈ trimLeft text
  rw [← whole]
  exact List.mem_append_left rest member

theorem trim_eq_nil_iff {text : List Char} : trim text = [] ↔ ∀ c ∈ text, isBlank c = true := by
  rw [trim, trimRight, trimLeft, List.reverse_eq_nil_iff, List.dropWhile_eq_nil_iff]
  constructor
  · intro blank c member
    rw [← List.takeWhile_append_dropWhile (p := isBlank) (l := text), List.mem_append] at member
    rcases member with front | rest
    · exact List.mem_takeWhile_imp front
    · exact blank c (List.mem_reverse.mpr rest)
  · intro blank c member
    exact blank c ((List.dropWhile_sublist isBlank).subset (List.mem_reverse.mp member))

theorem remainder_subset (text : List Char) : remainder text ⊆ text :=
  List.Subset.trans (trim_subset _) (List.dropWhile_sublist _).subset

theorem lines_cons (c : Char) (text : List Char) : lines (c :: text) = consLine c (lines text) :=
  rfl

theorem consLine_append (c : Char) {front : List (List Char)} (filled : front ≠ [])
    (rest : List (List Char)) : consLine c (front ++ rest) = consLine c front ++ rest := by
  cases front with
  | nil => exact absurd rfl filled
  | cons line front =>
    simp only [List.cons_append, consLine]
    split
    · rfl
    · rfl

theorem length_lines (text : List Char) : (lines text).length = 1 + text.count '\n' := by
  induction text with
  | nil => rfl
  | cons c text ih =>
    obtain ⟨front, rest, split⟩ := List.exists_cons_of_ne_nil (lines_ne_nil text)
    rw [split] at ih
    rw [lines_cons, split, consLine, List.count_cons]
    by_cases feed : c = '\n'
    · rw [if_pos feed, List.length_cons, ih]
      simp [feed, Nat.add_assoc]
    · rw [if_neg feed, List.length_cons, ← List.length_cons, ih]
      simp [feed]

theorem lines_append_feed (before behind : List Char) :
    lines (before ++ '\n' :: behind) = lines before ++ lines behind := by
  induction before with
  | nil =>
    rw [List.nil_append, lines_cons]
    obtain ⟨line, rest, split⟩ := List.exists_cons_of_ne_nil (lines_ne_nil behind)
    rw [split]
    rfl
  | cons c before ih =>
    rw [List.cons_append, lines_cons, ih, lines_cons, consLine_append c (lines_ne_nil before)]

theorem lines_of_no_feed {text : List Char} (single : '\n' ∉ text) : lines text = [text] := by
  induction text with
  | nil => rfl
  | cons c text ih =>
    rw [List.mem_cons, not_or] at single
    rw [lines_cons, ih single.2, consLine, if_neg (Ne.symm single.1)]

theorem no_feed_of_mem_lines {text line : List Char} (member : line ∈ lines text) : '\n' ∉ line := by
  induction text generalizing line with
  | nil =>
    obtain rfl := List.mem_singleton.mp member
    exact List.not_mem_nil
  | cons c text ih =>
    obtain ⟨front, rest, split⟩ := List.exists_cons_of_ne_nil (lines_ne_nil text)
    rw [split] at ih
    rw [lines_cons, split, consLine] at member
    by_cases feed : c = '\n'
    · rw [if_pos feed, List.mem_cons] at member
      rcases member with rfl | member
      · exact List.not_mem_nil
      · exact ih member
    · rw [if_neg feed, List.mem_cons] at member
      rcases member with rfl | member
      · rw [List.mem_cons, not_or]
        exact ⟨Ne.symm feed, ih List.mem_cons_self⟩
      · exact ih (List.mem_cons_of_mem front member)

theorem lines_intercalate {parts : List (List Char)} (filled : parts ≠ [])
    (single : ∀ part ∈ parts, '\n' ∉ part) : lines (['\n'].intercalate parts) = parts := by
  induction parts with
  | nil => exact absurd rfl filled
  | cons part parts ih =>
    have alone := lines_of_no_feed (single part List.mem_cons_self)
    cases parts with
    | nil => simpa using alone
    | cons next parts =>
      rw [List.intercalate_cons_cons, List.append_assoc, List.singleton_append, lines_append_feed,
        alone, ih (by simp) fun inner member => single inner (List.mem_cons_of_mem part member)]
      rfl

end StatementParser.Text
