/-!
A text that is cut at its first stop comes apart where it was put together, when there is no stop in
the first part and one at the beginning of the second.
-/
namespace StatementParser.Text

variable {α : Type} {stop : α → Bool} {word rest : List α}

theorem takeWhile_append_of_stop (inner : ∀ a ∈ word, stop a = false)
    (ends : ∀ a ∈ rest.head?, stop a = true) :
    (word ++ rest).takeWhile (fun a => !stop a) = word := by
  rw [List.takeWhile_append_of_pos (by simpa using inner)]
  cases rest with
  | nil => simp
  | cons a rest => simp [ends a rfl]

theorem dropWhile_append_of_stop (inner : ∀ a ∈ word, stop a = false)
    (ends : ∀ a ∈ rest.head?, stop a = true) :
    (word ++ rest).dropWhile (fun a => !stop a) = rest := by
  rw [List.dropWhile_append_of_pos (by simpa using inner)]
  cases rest with
  | nil => rfl
  | cons a rest => simp [ends a rfl]

theorem append_inj_of_stop {other others : List α} (inner : ∀ a ∈ word, stop a = false)
    (ends : ∀ a ∈ rest.head?, stop a = true) (otherInner : ∀ a ∈ other, stop a = false)
    (otherEnds : ∀ a ∈ others.head?, stop a = true) (same : word ++ rest = other ++ others) :
    word = other ∧ rest = others := by
  constructor
  · rw [← takeWhile_append_of_stop inner ends, same, takeWhile_append_of_stop otherInner otherEnds]
  · rw [← dropWhile_append_of_stop inner ends, same, dropWhile_append_of_stop otherInner otherEnds]

end StatementParser.Text
