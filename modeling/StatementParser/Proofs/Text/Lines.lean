import Mathlib.Data.List.Induction
import StatementParser.Proofs.Text.Blank

/-!
Where the lines of a text stand. What is done to one line leaves the others as they are, and blanks
put around a line are trimmed off again.
-/
namespace StatementParser.Text

/-- A line begins behind this text. -/
def Begins (before : List Char) : Prop :=
  before = [] ∨ ∃ front, before = front ++ ['\n']

/-- A line ends in front of this text. -/
def Ends (after : List Char) : Prop :=
  after = [] ∨ ∃ rest, after = '\n' :: rest

variable {before after : List Char}

theorem exists_front_lines (begins : Begins before) :
    ∃ front, ∀ text, lines (before ++ text) = front ++ lines text := by
  rcases begins with rfl | ⟨inner, rfl⟩
  · exact ⟨[], fun _ => rfl⟩
  · refine ⟨lines inner, fun text => ?_⟩
    rw [List.append_assoc, List.singleton_append, lines_append_feed]

theorem exists_rest_lines (ends : Ends after) :
    ∃ rest, ∀ line, '\n' ∉ line → lines (line ++ after) = line :: rest := by
  rcases ends with rfl | ⟨inner, rfl⟩
  · refine ⟨[], fun line single => ?_⟩
    rw [List.append_nil, lines_of_no_feed single]
  · refine ⟨lines inner, fun line single => ?_⟩
    rw [lines_append_feed, lines_of_no_feed single, List.singleton_append]

theorem exists_lines_around (begins : Begins before) (ends : Ends after) :
    ∃ front rest, ∀ line, '\n' ∉ line → lines (before ++ (line ++ after)) = front ++ line :: rest := by
  obtain ⟨front, inFront⟩ := exists_front_lines begins
  obtain ⟨rest, behind⟩ := exists_rest_lines ends
  refine ⟨front, rest, fun line single => ?_⟩
  rw [inFront, behind line single]

theorem exists_last_line (text : List Char) :
    ∃ front last, text = front ++ last ∧ Begins front ∧ '\n' ∉ last := by
  induction text using List.reverseRecOn with
  | nil => exact ⟨[], [], rfl, .inl rfl, List.not_mem_nil⟩
  | append_singleton text c ih =>
    by_cases feed : c = '\n'
    · subst feed
      exact ⟨text ++ ['\n'], [], (List.append_nil _).symm, .inr ⟨text, rfl⟩, List.not_mem_nil⟩
    · obtain ⟨front, last, rfl, begins, single⟩ := ih
      refine ⟨front, last ++ [c], List.append_assoc _ _ _, begins, ?_⟩
      rw [List.mem_append, List.mem_singleton, not_or]
      exact ⟨single, Ne.symm feed⟩

section Trim

variable {left right : List Char}

theorem trimLeft_blank_append (blank : ∀ c ∈ left, isBlank c = true) (text : List Char) :
    trimLeft (left ++ text) = trimLeft text :=
  List.dropWhile_append_of_pos blank

theorem trimRight_append_blank (blank : ∀ c ∈ right, isBlank c = true) (text : List Char) :
    trimRight (text ++ right) = trimRight text := by
  unfold trimRight
  rw [List.reverse_append, trimLeft_blank_append]
  intro c member
  exact blank c (List.mem_reverse.mp member)

theorem trim_pad (before : ∀ c ∈ left, isBlank c = true) (behind : ∀ c ∈ right, isBlank c = true)
    (text : List Char) : trim (left ++ (text ++ right)) = trim text := by
  rw [trim, trimLeft_blank_append before, trim, trimLeft, List.dropWhile_append]
  split
  next empty =>
    have nothing : text.dropWhile isBlank = [] := List.isEmpty_iff.mp empty
    rw [List.dropWhile_eq_nil_iff.mpr behind, trimLeft, nothing]
  next => exact trimRight_append_blank behind _

theorem trimRight_append_cons {c : Char} (solid : isBlank c = false) (front rest : List Char) :
    trimRight (front ++ c :: rest) = front ++ c :: trimRight rest := by
  have stop : trimLeft (c :: front.reverse) = c :: front.reverse :=
    trimLeft_of_head? (by simpa using solid)
  have turned : (front ++ c :: rest).reverse = rest.reverse ++ c :: front.reverse := by simp
  rw [trimRight, turned, trimLeft, List.dropWhile_append, trimRight, trimLeft]
  split
  next empty =>
    have nothing : rest.reverse.dropWhile isBlank = [] := List.isEmpty_iff.mp empty
    change (trimLeft (c :: front.reverse)).reverse = _
    rw [stop, nothing]
    simp
  next => simp

theorem trim_cons_of_solid {c : Char} (solid : isBlank c = false) (text : List Char) :
    trim (c :: text) = c :: trimRight text := by
  rw [trim, trimLeft_of_head? (by simpa using solid)]
  exact trimRight_append_cons solid [] text

variable {word gap : List Char}

theorem trim_words (filled : word ≠ []) (solid : ∀ c ∈ word, isBlank c = false) {c : Char}
    (more : isBlank c = false) (gap rest : List Char) :
    trim (word ++ (gap ++ c :: rest)) = word ++ (gap ++ c :: trimRight rest) := by
  obtain ⟨first, tail, rfl⟩ := List.exists_cons_of_ne_nil filled
  rw [List.cons_append, trim_cons_of_solid (solid first List.mem_cons_self), ← List.append_assoc,
    trimRight_append_cons more, List.append_assoc, List.cons_append]

theorem blank_head?_append (blank : ∀ c ∈ gap, isBlank c = true) (apart : gap ≠ [])
    (rest : List Char) : ∀ c ∈ (gap ++ rest).head?, isBlank c = true := by
  obtain ⟨first, tail, rfl⟩ := List.exists_cons_of_ne_nil apart
  intro c same
  cases same
  exact blank first List.mem_cons_self

theorem firstWord_words (solid : ∀ c ∈ word, isBlank c = false)
    (blank : ∀ c ∈ gap, isBlank c = true) (apart : gap ≠ []) (rest : List Char) :
    firstWord (word ++ (gap ++ rest)) = word :=
  takeWhile_append_of_stop solid (blank_head?_append blank apart rest)

theorem remainder_words (solid : ∀ c ∈ word, isBlank c = false)
    (blank : ∀ c ∈ gap, isBlank c = true) (apart : gap ≠ []) (rest : List Char) :
    remainder (word ++ (gap ++ rest)) = trim rest := by
  have padded := trim_pad blank (List.forall_mem_nil _) rest
  rw [List.append_nil] at padded
  rw [remainder, dropWhile_append_of_stop solid (blank_head?_append blank apart rest), padded]

end Trim

end StatementParser.Text
