import StatementParser.Listing
import StatementParser.Proofs.Text.Blank

/-!
One line of a listing. The texts that a line can give to a token are those on a single line without
blanks around them, not empty where the kind has no text of its own; written behind the name of the
kind, each of them is read back.
-/
namespace StatementParser

open Text (isBlank Trimmed trim firstWord remainder)

namespace Kind

theorem isBlank_name (kind : Kind) : ∀ c ∈ kind.name.toList, isBlank c = false := by
  have solid : kind.name.toList.all (fun c => !isBlank c) = true := by cases kind <;> rfl
  simpa using solid

theorem isBlank_lexeme {kind : Kind} {lexeme : String} (found : kind.lexeme? = some lexeme) :
    ∀ c ∈ lexeme.toList, isBlank c = false := by
  have solid : lexeme.toList.all (fun c => !isBlank c) = true := by
    cases kind <;> cases found <;> rfl
  simpa using solid

theorem eq_eof_of_lexeme_empty {kind : Kind} (found : kind.lexeme? = some "") : kind = .eof := by
  revert found
  cases kind <;> decide

theorem exists_name_eq_cons (kind : Kind) :
    ∃ first tail, kind.name.toList = first :: tail ∧ first ≠ '#' := by
  cases kind <;> exact ⟨_, _, rfl, by decide⟩

end Kind

/-- A line of a listing can give this text to a token of this kind. -/
structure Token.Listable (token : Token) : Prop where
  single : '\n' ∉ token.text.toList
  trimmed : Trimmed token.text.toList
  filled : token.kind ≠ .eof → token.text ≠ ""

theorem Token.listable_lexeme {kind : Kind} {lexeme : String} (found : kind.lexeme? = some lexeme) :
    Token.Listable ⟨kind, lexeme⟩ where
  single := Text.no_feed_of_solid (Kind.isBlank_lexeme found)
  trimmed := Text.trimmed_of_solid (Kind.isBlank_lexeme found)
  filled := by
    rintro other rfl
    exact other (Kind.eq_eof_of_lexeme_empty found)

namespace Listing

theorem listable_of_complete {kind : Kind} {text : List Char} {token : Token}
    (done : complete kind text = .ok token) (single : '\n' ∉ text) (trimmed : Trimmed text) :
    token.Listable := by
  unfold complete at done
  split at done
  · split at done
    next lexeme found =>
      cases done
      exact Token.listable_lexeme found
    next => cases done
  next filled =>
    cases done
    refine ⟨?_, ?_, ?_⟩
    · simpa using single
    · simpa using trimmed
    · intro _ empty
      apply filled
      have nothing := congrArg String.toList empty
      simpa using nothing

theorem listable_of_readLine {line : List Char} {token : Token} (single : '\n' ∉ line)
    (done : readLine line = .ok token) : token.Listable := by
  unfold readLine at done
  dsimp only at done
  split at done
  next kind found =>
    apply listable_of_complete done
    · intro feed
      exact single (Text.trim_subset _ (Text.remainder_subset _ feed))
    · exact Text.trimmed_trim _
  next => cases done

def suffix (token : Token) : List Char :=
  if token.text.isEmpty then [] else ' ' :: token.text.toList

theorem toList_writeToken (token : Token) :
    (writeToken token).toList = token.kind.name.toList ++ suffix token := by
  unfold writeToken suffix
  split
  · simp
  · simp

theorem isBlank_suffix (token : Token) : ∀ c ∈ (suffix token).head?, isBlank c = true := by
  unfold suffix
  split
  · simp
  · intro c first
    cases first
    rfl

variable {token : Token}

theorem no_feed_writeToken (listable : token.Listable) : '\n' ∉ (writeToken token).toList := by
  intro feed
  rw [toList_writeToken, List.mem_append] at feed
  rcases feed with inName | behind
  · exact Text.no_feed_of_solid token.kind.isBlank_name inName
  · unfold suffix at behind
    split at behind
    · cases behind
    · rcases List.mem_cons.mp behind with space | inText
      · revert space
        decide
      · exact listable.single inText

theorem trimmed_writeToken (listable : token.Listable) : Trimmed (writeToken token).toList where
  first := by
    obtain ⟨first, tail, name, -⟩ := token.kind.exists_name_eq_cons
    have plain := token.kind.isBlank_name first (by rw [name]; exact List.mem_cons_self)
    rw [toList_writeToken, name]
    intro c same
    cases same
    exact plain
  last := by
    intro c last
    rw [toList_writeToken, List.getLast?_append] at last
    unfold suffix at last
    by_cases empty : token.text.isEmpty = true
    · rw [if_pos empty] at last
      exact token.kind.isBlank_name c (List.mem_of_getLast? last)
    · rw [if_neg empty] at last
      obtain ⟨first, tail, text⟩ : ∃ first tail, token.text.toList = first :: tail := by
        apply List.exists_cons_of_ne_nil
        simpa using empty
      apply listable.trimmed.last c
      rw [text] at last ⊢
      simpa using last

theorem firstWord_writeToken (token : Token) :
    firstWord (writeToken token).toList = token.kind.name.toList := by
  rw [toList_writeToken]
  exact Text.takeWhile_append_of_stop token.kind.isBlank_name (isBlank_suffix token)

theorem remainder_writeToken (listable : token.Listable) :
    remainder (writeToken token).toList = token.text.toList := by
  rw [toList_writeToken, remainder,
    Text.dropWhile_append_of_stop token.kind.isBlank_name (isBlank_suffix token), suffix]
  split
  next empty =>
    have nothing : token.text.toList = [] := by simpa using empty
    rw [nothing]
    rfl
  next => rw [Text.trim_cons_of_blank rfl, Text.trim_of_trimmed listable.trimmed]

theorem significant_writeToken (listable : token.Listable) :
    significant (writeToken token).toList = true := by
  obtain ⟨first, tail, name, other⟩ := token.kind.exists_name_eq_cons
  rw [significant, Text.trim_of_trimmed (trimmed_writeToken listable), toList_writeToken, name]
  simpa using other

theorem complete_text (listable : token.Listable) :
    complete token.kind token.text.toList = .ok token := by
  unfold complete
  split
  next empty =>
    have nothing : token.text = "" := by simpa using empty
    have last : token.kind = .eof :=
      Decidable.byContradiction fun other => listable.filled other nothing
    obtain ⟨kind, text⟩ := token
    cases last
    cases nothing
    rfl
  next => rw [String.ofList_toList]

theorem readLine_writeToken (listable : token.Listable) :
    readLine (writeToken token).toList = .ok token := by
  unfold readLine
  dsimp only
  rw [Text.trim_of_trimmed (trimmed_writeToken listable), firstWord_writeToken,
    remainder_writeToken listable, String.ofList_toList, Kind.ofName?_name]
  exact complete_text listable

end Listing
end StatementParser
