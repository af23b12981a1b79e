import Mathlib.Logic.Relation
import StatementParser.Proofs.Listing.Lines
import StatementParser.Proofs.Text.Lines

/-!
The layout of a listing does not matter. Blank lines, comments, blanks around what stands on a line
and the manner in which lines end may all be changed: the same tokens are read, or the same fault is
told of the line that has moved with them.
-/
namespace StatementParser.Listing

open Text (isBlank trim firstWord remainder lines Begins Ends)

def Skipped (line : List Char) : Prop :=
  (∀ c ∈ line, isBlank c = true) ∨
    ∃ blanks rest, line = blanks ++ '#' :: rest ∧ ∀ c ∈ blanks, isBlank c = true

/-- The other line has more blanks around it, or other ones between its first word and what follows.
-/
inductive Respaced : List Char → List Char → Prop where
  | pad {left right : List Char} (before : ∀ c ∈ left, isBlank c = true)
      (behind : ∀ c ∈ right, isBlank c = true) (line : List Char) :
      Respaced line (left ++ (line ++ right))
  | gap {left word gap other : List Char} {c : Char} (before : ∀ c ∈ left, isBlank c = true)
      (solid : ∀ c ∈ word, isBlank c = false) (filled : word ≠ [])
      (blank : ∀ c ∈ gap, isBlank c = true) (apart : gap ≠ [])
      (otherBlank : ∀ c ∈ other, isBlank c = true) (otherApart : other ≠ [])
      (text : isBlank c = false) (rest : List Char) :
      Respaced (left ++ (word ++ (gap ++ c :: rest))) (left ++ (word ++ (other ++ c :: rest)))

/-- One change of the layout of a text. -/
inductive Edit : List Char → List Char → Prop where
  | skip {before line : List Char} (begins : Begins before) (single : '\n' ∉ line)
      (skipped : Skipped line) (after : List Char) :
      Edit (before ++ after) (before ++ (line ++ '\n' :: after))
  | respace {before line other after : List Char} (begins : Begins before) (ends : Ends after)
      (single : '\n' ∉ line) (otherSingle : '\n' ∉ other) (respaced : Respaced line other) :
      Edit (before ++ (line ++ after)) (before ++ (other ++ after))
  | carriage (before after : List Char) :
      Edit (before ++ '\n' :: after) (before ++ '\r' :: '\n' :: after)
  | feed (text : List Char) : Edit text (text ++ ['\n'])

/-- The line of this number counts, and so many lines that count stand in front of it. -/
def Stands (text : String) (count number : Nat) : Prop :=
  ∃ before line after, lines text.toList = before ++ line :: after ∧ significant line = true ∧
    before.countP significant = count ∧ number = before.length + 1

section Line

variable {line other : List Char}

def entry (line : List Char) : List Char × List Char :=
  (firstWord (trim line), remainder (trim line))

theorem significant_congr (same : trim line = trim other) : significant line = significant other := by
  rw [significant, significant, same]

theorem significant_append_cons {blanks : List Char} (blank : ∀ c ∈ blanks, isBlank c = true)
    {c : Char} (solid : isBlank c = false) (rest : List Char) :
    significant (blanks ++ c :: rest) = (c != '#') := by
  have padded := Text.trim_pad blank (List.forall_mem_nil _) (c :: rest)
  rw [List.append_nil] at padded
  rw [significant, padded, Text.trim_cons_of_solid solid]

theorem not_significant_of_skipped (skipped : Skipped line) : ¬significant line = true := by
  rcases skipped with blank | ⟨blanks, rest, rfl, blank⟩
  · rw [significant, Text.trim_eq_nil_iff.mpr blank]
    simp
  · rw [significant_append_cons blank (by decide)]
    simp

theorem readLine_congr (same : entry line = entry other) : readLine line = readLine other := by
  obtain ⟨word, rest⟩ := Prod.mk.inj same
  unfold readLine
  dsimp only
  rw [word, rest]

theorem add_congr (counts : significant line = true) (otherCounts : significant other = true)
    (same : entry line = entry other) (number : Nat) (done : List Token) :
    add number done line = add number done other := by
  rw [add, add, if_pos counts, if_pos otherCounts, readLine_congr same]

theorem entry_words {left word gap : List Char} {c : Char} (before : ∀ c ∈ left, isBlank c = true)
    (solid : ∀ c ∈ word, isBlank c = false) (filled : word ≠ [])
    (blank : ∀ c ∈ gap, isBlank c = true) (apart : gap ≠ []) (text : isBlank c = false)
    (rest : List Char) :
    entry (left ++ (word ++ (gap ++ c :: rest))) = (word, trim (c :: Text.trimRight rest)) := by
  have padded := Text.trim_pad before (List.forall_mem_nil _) (word ++ (gap ++ c :: rest))
  rw [List.append_nil] at padded
  rw [entry, padded, Text.trim_words filled solid text, Text.firstWord_words solid blank apart,
    Text.remainder_words solid blank apart]

theorem Respaced.same (respaced : Respaced line other) :
    significant line = significant other ∧ entry line = entry other := by
  cases respaced with
  | pad before behind line =>
    have kept := Text.trim_pad before behind line
    refine ⟨significant_congr kept.symm, ?_⟩
    rw [entry, entry, kept]
  | @gap left word gap replaced c before solid filled blank apart otherBlank otherApart text rest =>
    constructor
    · obtain ⟨first, tail, rfl⟩ := List.exists_cons_of_ne_nil filled
      have plain := solid first List.mem_cons_self
      rw [List.cons_append, List.cons_append, significant_append_cons before plain,
        significant_append_cons before plain]
    · rw [entry_words before solid filled blank apart text,
        entry_words before solid filled otherBlank otherApart text]

end Line

/-- What is read of the lines that count. -/
def entries (lines : List (List Char)) : List (List Char × List Char) :=
  (lines.filter significant).map entry

theorem entries_append (front rest : List (List Char)) :
    entries (front ++ rest) = entries front ++ entries rest := by
  rw [entries, List.filter_append, List.map_append]
  rfl

theorem entries_cons (line : List Char) (rest : List (List Char)) :
    entries (line :: rest) = entries [line] ++ entries rest :=
  entries_append [line] rest

theorem entries_singleton_congr {line other : List Char}
    (same : significant line = significant other ∧ entry line = entry other) :
    entries [line] = entries [other] := by
  unfold entries
  by_cases counts : significant line = true
  · have otherCounts : significant other = true := same.1.symm.trans counts
    simp [counts, otherCounts, same.2]
  · have otherSkipped : ¬significant other = true := fun found => counts (same.1.trans found)
    simp [counts, otherSkipped]

theorem entries_of_not_significant {line : List Char} (other : ¬significant line = true) :
    entries [line] = [] := by
  simp [entries, other]

theorem entries_respace {before line other after : List Char} (begins : Begins before)
    (ends : Ends after) (single : '\n' ∉ line) (otherSingle : '\n' ∉ other)
    (respaced : Respaced line other) :
    entries (lines (before ++ (line ++ after))) = entries (lines (before ++ (other ++ after))) := by
  obtain ⟨front, rest, around⟩ := Text.exists_lines_around begins ends
  rw [around line single, around other otherSingle, entries_append, entries_cons,
    entries_append front, entries_cons other, entries_singleton_congr respaced.same]

theorem Edit.entries_eq {text other : List Char} (edit : Edit text other) :
    entries (lines text) = entries (lines other) := by
  cases edit with
  | @skip before line begins single skipped after =>
    obtain ⟨front, inFront⟩ := Text.exists_front_lines begins
    rw [inFront, inFront, Text.lines_append_feed, Text.lines_of_no_feed single, entries_append,
      entries_append, entries_append [line],
      entries_of_not_significant (not_significant_of_skipped skipped), List.nil_append]
  | respace begins ends single otherSingle respaced =>
    exact entries_respace begins ends single otherSingle respaced
  | carriage before after =>
    obtain ⟨front, last, rfl, begins, single⟩ := Text.exists_last_line before
    have padded : Respaced last ([] ++ (last ++ ['\r'])) :=
      .pad (List.forall_mem_nil _) (List.forall_mem_singleton.mpr rfl) last
    have otherSingle : '\n' ∉ [] ++ (last ++ ['\r']) := by simpa using single
    have same := entries_respace begins (.inr ⟨after, rfl⟩) single otherSingle padded
    simpa using same
  | feed =>
    rw [Text.lines_append_feed, entries_append]
    exact (List.append_nil _).symm

theorem entries_of_edits {text other : List Char} (edited : Relation.EqvGen Edit text other) :
    entries (lines text) = entries (lines other) := by
  induction edited with
  | rel text other edit => exact edit.entries_eq
  | refl text => rfl
  | symm text other _ ih => exact ih.symm
  | trans text middle other _ _ first second => exact first.trans second

theorem gather_congr {rows others : List (List Char)} (counts : ∀ line ∈ rows, significant line = true)
    (otherCounts : ∀ line ∈ others, significant line = true)
    (same : rows.map entry = others.map entry) (number : Nat) (done : List Token) :
    gather number done rows = gather number done others := by
  induction rows generalizing others number done with
  | nil =>
    have empty : others = [] := List.map_eq_nil_iff.mp same.symm
    rw [empty]
  | cons line rows ih =>
    cases others with
    | nil => cases same
    | cons other others =>
      obtain ⟨first, rest⟩ := List.cons.inj same
      rw [List.forall_mem_cons] at counts otherCounts
      rw [gather_cons, gather_cons, add_congr counts.1 otherCounts.1 first]
      cases add number done other with
      | error error => rfl
      | ok next => exact ih counts.2 otherCounts.2 rest (number + 1) next

theorem add_anywhere (done : List Token) (line : List Char) :
    (∃ next, ∀ number, add number done line = .ok next) ∨
      significant line = true ∧ ∃ fault, ∀ number, add number done line = .error ⟨fault, number⟩ := by
  by_cases counts : significant line = true
  · by_cases stopped : ended done = true
    · exact .inr ⟨counts, .afterEof, fun number => by rw [add, if_pos counts, if_pos stopped]⟩
    · cases read : readLine line with
      | ok token =>
        refine .inl ⟨token :: done, fun number => ?_⟩
        rw [add, if_pos counts, if_neg stopped, read]
      | error fault =>
        refine .inr ⟨counts, fault, fun number => ?_⟩
        rw [add, if_pos counts, if_neg stopped, read]
  · exact .inl ⟨done, fun number => by rw [add, if_neg counts]⟩

theorem gather_skip {line : List Char} (other : ¬significant line = true) (number : Nat)
    (done : List Token) (rows : List (List Char)) :
    gather number done (line :: rows) = gather (number + 1) done rows := by
  rw [gather_cons, add, if_neg other]
  rfl

theorem gather_of_filter_ok {rows : List (List Char)} {place : Nat} {done after : List Token}
    (ran : gather place done (rows.filter significant) = .ok after) (number : Nat) :
    gather number done rows = .ok after := by
  induction rows generalizing place number done with
  | nil => exact ran
  | cons line rows ih =>
    by_cases counts : significant line = true
    · rw [List.filter_cons, if_pos counts, gather_cons] at ran
      rcases add_anywhere done line with ⟨next, same⟩ | ⟨-, fault, same⟩
      · rw [same place] at ran
        rw [gather_cons, same number]
        exact ih ran (number + 1)
      · rw [same place] at ran
        cases ran
    · rw [List.filter_cons, if_neg counts] at ran
      rw [gather_skip counts]
      exact ih ran (number + 1)

theorem gather_of_filter_error {rows : List (List Char)} {place : Nat} {done : List Token}
    {error : Error} (failed : gather place done (rows.filter significant) = .error error)
    (number : Nat) :
    ∃ before line after, rows = before ++ line :: after ∧ significant line = true ∧
      error.line = before.countP significant + place ∧
      gather number done rows = .error ⟨error.fault, before.length + number⟩ := by
  induction rows generalizing place number done with
  | nil => cases failed
  | cons line rows ih =>
    by_cases counts : significant line = true
    · rw [List.filter_cons, if_pos counts, gather_cons] at failed
      rcases add_anywhere done line with ⟨next, same⟩ | ⟨-, fault, same⟩
      · rw [same place] at failed
        obtain ⟨before, last, after, rfl, found, place, outcome⟩ := ih failed (number + 1)
        refine ⟨line :: before, last, after, rfl, found, ?_, ?_⟩
        · rw [place, List.countP_cons_of_pos counts]
          omega
        · rw [gather_cons, same number, List.length_cons, Nat.add_assoc, Nat.add_comm 1]
          exact outcome
      · rw [same place] at failed
        cases failed
        refine ⟨[], line, rows, rfl, counts, (Nat.zero_add _).symm, ?_⟩
        rw [gather_cons, same number, List.length_nil, Nat.zero_add]
        rfl
    · rw [List.filter_cons, if_neg counts] at failed
      obtain ⟨before, last, after, rfl, found, place, outcome⟩ := ih failed (number + 1)
      refine ⟨line :: before, last, after, rfl, found, ?_, ?_⟩
      · rw [place, List.countP_cons_of_neg counts]
      · rw [gather_skip counts, List.length_cons, Nat.add_assoc, Nat.add_comm 1]
        exact outcome

variable {text other : String}

theorem read_of_filter_ok {after : List Token}
    (ran : gather 1 [] ((lines text.toList).filter significant) = .ok after) :
    read text = .ok (finish after) := by
  rw [read_eq_gather, gather_of_filter_ok ran 1]
  rfl

theorem read_of_filter_error {error : Error}
    (failed : gather 1 [] ((lines text.toList).filter significant) = .error error) :
    ∃ number, read text = .error ⟨error.fault, number⟩ ∧ Stands text (error.line - 1) number := by
  obtain ⟨before, line, after, split, counts, place, outcome⟩ := gather_of_filter_error failed 1
  refine ⟨before.length + 1, ?_, before, line, after, split, counts, ?_, rfl⟩
  · rw [read_eq_gather, outcome]
    rfl
  · rw [place, Nat.add_sub_cancel]

/-- However the layout of a listing is changed, and changed back, the reading has the same outcome:
the same tokens, or the same fault, told of the line that takes the same place among those that
count. -/
theorem read_layout (edited : Relation.EqvGen Edit text.toList other.toList) :
    (∃ tokens, read text = .ok tokens ∧ read other = .ok tokens) ∨
      ∃ fault count number place, read text = .error ⟨fault, number⟩ ∧
        read other = .error ⟨fault, place⟩ ∧ Stands text count number ∧ Stands other count place := by
  have same : gather 1 [] ((lines text.toList).filter significant) =
      gather 1 [] ((lines other.toList).filter significant) :=
    gather_congr (fun _ member => (List.mem_filter.mp member).2)
      (fun _ member => (List.mem_filter.mp member).2) (entries_of_edits edited) 1 []
  cases ran : gather 1 [] ((lines text.toList).filter significant) with
  | ok after => exact .inl ⟨finish after, read_of_filter_ok ran, read_of_filter_ok (same ▸ ran)⟩
  | error error =>
    obtain ⟨number, failed, stands⟩ := read_of_filter_error ran
    obtain ⟨place, otherFailed, otherStands⟩ := read_of_filter_error (same ▸ ran)
    exact .inr ⟨error.fault, error.line - 1, number, place, failed, otherFailed, stands, otherStands⟩

/-- The third line that counts is the third line of the one text and the fourth line of the other,
which has a comment in front, other blanks and another line end. -/
theorem read_layout_moved :
    Relation.EqvGen Edit "plus\nnumber 1\nwhile\n".toList "#\nplus\r\nnumber\u20281\nwhile".toList ∧
      read "plus\nnumber 1\nwhile\n" = .error ⟨.unknownKind "while", 3⟩ ∧
      read "#\nplus\r\nnumber\u20281\nwhile" = .error ⟨.unknownKind "while", 4⟩ ∧
      ∃ count, Stands "plus\nnumber 1\nwhile\n" count 3 ∧
        Stands "#\nplus\r\nnumber\u20281\nwhile" count 4 := by
  have ended : Edit "plus\nnumber 1\nwhile".toList "plus\nnumber 1\nwhile\n".toList :=
    .feed "plus\nnumber 1\nwhile".toList
  have comment : Edit "plus\nnumber 1\nwhile".toList "#\nplus\nnumber 1\nwhile".toList :=
    @Edit.skip [] ['#'] (.inl rfl) (by decide) (.inr ⟨[], [], rfl, List.forall_mem_nil _⟩)
      "plus\nnumber 1\nwhile".toList
  have carriage : Edit "#\nplus\nnumber 1\nwhile".toList "#\nplus\r\nnumber 1\nwhile".toList :=
    .carriage "#\nplus".toList "number 1\nwhile".toList
  have separator : Respaced "number 1".toList "number\u20281".toList :=
    @Respaced.gap [] Kind.number.name.toList [' '] ['\u2028'] '1' (List.forall_mem_nil _)
      (Kind.isBlank_name .number) (by decide) (List.forall_mem_singleton.mpr rfl) (by decide)
      (List.forall_mem_singleton.mpr rfl) (by decide) rfl []
  have gap : Edit "#\nplus\r\nnumber 1\nwhile".toList "#\nplus\r\nnumber\u20281\nwhile".toList :=
    @Edit.respace "#\nplus\r\n".toList _ _ "\nwhile".toList (.inr ⟨"#\nplus\r".toList, rfl⟩)
      (.inr ⟨"while".toList, rfl⟩) (by decide) (by decide) separator
  have edited : Relation.EqvGen Edit "plus\nnumber 1\nwhile\n".toList
      "#\nplus\r\nnumber\u20281\nwhile".toList :=
    (((Relation.EqvGen.rel _ _ ended).symm.trans _ _ _ (.rel _ _ comment)).trans _ _ _
      (.rel _ _ carriage)).trans _ _ _ (.rel _ _ gap)
  have failed : read "plus\nnumber 1\nwhile\n" = .error ⟨.unknownKind "while", 3⟩ := rfl
  have otherFailed : read "#\nplus\r\nnumber\u20281\nwhile" = .error ⟨.unknownKind "while", 4⟩ := rfl
  refine ⟨edited, failed, otherFailed, ?_⟩
  rcases read_layout edited with ⟨tokens, ran, -⟩ | ⟨fault, count, number, place, one, two, stands, others⟩
  · rw [failed] at ran
    cases ran
  · rw [failed] at one
    rw [otherFailed] at two
    cases one
    cases two
    exact ⟨count, stands, others⟩

end StatementParser.Listing
