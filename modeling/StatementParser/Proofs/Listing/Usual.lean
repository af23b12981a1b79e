import StatementParser.Proofs.Listing.Faults

/-!
The texts that a listing gives to kinds that have one of their own. A line may leave the text out,
but it may as well give one, and then any text is taken. Which texts the tokens of a kind have can
be seen from the lines of the kind.
-/
namespace StatementParser.Listing

open Text (trim firstWord remainder)

/-- If the line is one of the kind, it leaves the text out, or gives the one that the kind has
anyway. -/
def UsualLine (kind : Kind) (line : List Char) : Prop :=
  firstWord (trim line) = kind.name.toList →
    remainder (trim line) = [] ∨ kind.lexeme? = some (String.ofList (remainder (trim line)))

def Usual (kind : Kind) (text : String) : Prop :=
  ∀ line ∈ (Text.lines text.toList).filter significant, UsualLine kind line

theorem given_of_read {text : String} {tokens : List Token} (listed : read text = .ok tokens) :
    ∃ body, List.Forall₂ Given ((Text.lines text.toList).filter significant) body ∧
      (tokens = body ∨ tokens = body ++ [Token.eof]) := by
  rw [read_eq_gather] at listed
  by_cases clean : Clean (Text.lines text.toList)
  · obtain ⟨body, given, ran⟩ := gather_of_clean clean
    rw [ran] at listed
    have finished : finish body.reverse = tokens := Except.ok.inj listed
    refine ⟨body, given, ?_⟩
    by_cases stopped : ended body.reverse = true
    · rw [finish_of_ended stopped, List.reverse_reverse] at finished
      exact .inl finished.symm
    · rw [finish_of_not_ended stopped, List.reverse_reverse] at finished
      exact .inr finished.symm
  · obtain ⟨before, line, after, message, split, bad, earlier⟩ := exists_first_bad clean
    obtain ⟨fault, ran, -⟩ := gather_of_bad earlier bad after
    rw [split, ran] at listed
    cases listed

variable {kind : Kind}

theorem Given.usualLine_iff {line : List Char} {token : Token} (given : Given line token) :
    UsualLine kind line ↔ (token.kind = kind → kind.lexeme? = some token.text) := by
  have named : firstWord (trim line) = kind.name.toList ↔ token.kind = kind := by
    rw [given.named, String.toList_inj]
    exact ⟨Kind.name_injective, congrArg Kind.name⟩
  rw [UsualLine, named]
  apply forall_congr'
  rintro rfl
  by_cases omitted : remainder (trim line) = []
  · have lexeme := given.lexeme omitted
    simp only [omitted, true_or, lexeme]
  · have text : String.ofList (remainder (trim line)) = token.text := by
      rw [← given.text omitted, String.ofList_toList]
    simp only [omitted, false_or, text]

theorem usualLine_iff_of_given {lines : List (List Char)} {body : List Token}
    (given : List.Forall₂ Given lines body) :
    (∀ line ∈ lines, UsualLine kind line) ↔
      ∀ token ∈ body, token.kind = kind → kind.lexeme? = some token.text := by
  induction given with
  | nil => simp
  | cons first _ ih => rw [List.forall_mem_cons, List.forall_mem_cons, first.usualLine_iff, ih]

theorem usual_iff {text : String} {tokens : List Token} (listed : read text = .ok tokens) :
    Usual kind text ↔ ∀ token ∈ tokens, token.kind = kind → kind.lexeme? = some token.text := by
  obtain ⟨body, given, rfl | rfl⟩ := given_of_read listed
  · exact usualLine_iff_of_given given
  · rw [Usual, usualLine_iff_of_given given, List.forall_mem_append, List.forall_mem_singleton]
    have supplied : Token.eof.kind = kind → kind.lexeme? = some Token.eof.text := by
      rintro rfl
      rfl
    exact (and_iff_left supplied).symm

end StatementParser.Listing
