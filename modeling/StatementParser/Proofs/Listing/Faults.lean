import Mathlib.Data.List.Forall2
import Mathlib.Data.List.Induction
import StatementParser.Proofs.Listing.Lines

/-!
Which listings are refused, and why. A line is bad by what stands on it and by whether an `eof`
stands before it. The reading stops at the first bad line and tells its fault. Without one it yields
a token for every line that counts.
-/
namespace StatementParser.Listing

open Text (isBlank trim firstWord remainder)

/-- The line is bad behind these lines, and this is said about it. Behind an `eof` it does not
matter what it holds. -/
inductive Bad (before : List (List Char)) (line : List Char) : String → Prop where
  | behindEof (counts : significant line = true)
      (closed : ∃ earlier ∈ before, closes earlier = true) :
      Bad before line "Token after 'eof'"
  | unknown (counts : significant line = true)
      (opened : ∀ earlier ∈ before, ¬closes earlier = true)
      (other : ∀ kind : Kind, firstWord (trim line) ≠ kind.name.toList) :
      Bad before line ("unknown token kind '" ++ String.ofList (firstWord (trim line)) ++ "'")
  | bare (counts : significant line = true)
      (opened : ∀ earlier ∈ before, ¬closes earlier = true)
      (named : firstWord (trim line) = "identifier".toList ∨ firstWord (trim line) = "number".toList)
      (alone : ∀ c ∈ (trim line).dropWhile fun c => !isBlank c, isBlank c = true) :
      Bad before line ("Missing text for '" ++ String.ofList (firstWord (trim line)) ++ "' token")

def Clean (lines : List (List Char)) : Prop :=
  ∀ before line after, lines = before ++ line :: after → ∀ message, ¬Bad before line message

/-- The token of a line: its kind is named first, and its text is what follows, or that of the kind.
-/
structure Given (line : List Char) (token : Token) : Prop where
  named : firstWord (trim line) = token.kind.name.toList
  text : remainder (trim line) ≠ [] → token.text.toList = remainder (trim line)
  lexeme : remainder (trim line) = [] → token.kind.lexeme? = some token.text

theorem kind_of_lexeme?_eq_none {kind : Kind} (without : kind.lexeme? = none) :
    kind = .identifier ∨ kind = .number := by
  revert without
  cases kind <;> decide

section Line

variable {before : List (List Char)} {line : List Char} {token : Token} {fault : Fault}

theorem readLine_of_named {kind : Kind} (named : firstWord (trim line) = kind.name.toList) :
    readLine line = complete kind (remainder (trim line)) := by
  unfold readLine
  dsimp only
  rw [named, String.ofList_toList, Kind.ofName?_name]

theorem readLine_of_unnamed (other : ∀ kind : Kind, firstWord (trim line) ≠ kind.name.toList) :
    readLine line = .error (.unknownKind (String.ofList (firstWord (trim line)))) := by
  unfold readLine
  dsimp only
  split
  next kind found =>
    have named := congrArg String.toList (Kind.ofName?_eq_some_iff.mp found)
    rw [String.toList_ofList] at named
    exact absurd named (other kind)
  next => rfl

theorem given_of_readLine (done : readLine line = .ok token) : Given line token := by
  have named := name_of_readLine done
  rw [readLine_of_named named] at done
  obtain ⟨kind, text⟩ := token
  unfold complete at done
  split at done
  next empty =>
    have nothing : remainder (trim line) = [] := List.isEmpty_iff.mp empty
    split at done
    next lexeme found =>
      cases done
      exact ⟨named, fun filled => absurd nothing filled, fun _ => found⟩
    next => cases done
  next filled =>
    cases done
    refine ⟨named, fun _ => String.toList_ofList, fun nothing => ?_⟩
    exact absurd (List.isEmpty_iff.mpr nothing) filled

theorem bad_of_readLine (counts : significant line = true)
    (opened : ∀ earlier ∈ before, ¬closes earlier = true) (failed : readLine line = .error fault) :
    Bad before line fault.message := by
  by_cases known : ∃ kind : Kind, firstWord (trim line) = kind.name.toList
  · obtain ⟨kind, named⟩ := known
    rw [readLine_of_named named] at failed
    unfold complete at failed
    split at failed
    next empty =>
      split at failed
      next => cases failed
      next without =>
        cases failed
        have word : String.ofList (firstWord (trim line)) = kind.name := by
          rw [named, String.ofList_toList]
        have short : firstWord (trim line) = "identifier".toList ∨
            firstWord (trim line) = "number".toList := by
          rcases kind_of_lexeme?_eq_none without with rfl | rfl
          · exact .inl named
          · exact .inr named
        have bad := Bad.bare counts opened short (Text.trim_eq_nil_iff.mp (List.isEmpty_iff.mp empty))
        rw [word] at bad
        exact bad
    next => cases failed
  · rw [not_exists] at known
    rw [readLine_of_unnamed known] at failed
    cases failed
    exact .unknown counts opened known

theorem readLine_of_bare
    (named : firstWord (trim line) = "identifier".toList ∨ firstWord (trim line) = "number".toList)
    (alone : ∀ c ∈ (trim line).dropWhile fun c => !isBlank c, isBlank c = true) :
    ∃ fault : Fault, readLine line = .error fault ∧ fault.message =
      "Missing text for '" ++ String.ofList (firstWord (trim line)) ++ "' token" := by
  have nothing : remainder (trim line) = [] := Text.trim_eq_nil_iff.mpr alone
  rcases named with name | name
  · have kind : firstWord (trim line) = Kind.identifier.name.toList := name
    rw [readLine_of_named kind, nothing, kind, String.ofList_toList]
    exact ⟨_, rfl, rfl⟩
  · have kind : firstWord (trim line) = Kind.number.name.toList := name
    rw [readLine_of_named kind, nothing, kind, String.ofList_toList]
    exact ⟨_, rfl, rfl⟩

end Line

section Step

variable {before : List (List Char)} {line : List Char} {done : List Token} {message : String}

theorem not_ended_of_opened (stops : ended done = true ↔ ∃ earlier ∈ before, closes earlier = true)
    (opened : ∀ earlier ∈ before, ¬closes earlier = true) : ¬ended done = true := by
  intro stop
  obtain ⟨earlier, member, closing⟩ := stops.mp stop
  exact opened earlier member closing

theorem add_of_bad (stops : ended done = true ↔ ∃ earlier ∈ before, closes earlier = true)
    (bad : Bad before line message) (number : Nat) :
    ∃ fault : Fault, add number done line = .error ⟨fault, number⟩ ∧ fault.message = message := by
  unfold add
  cases bad with
  | behindEof counts closed =>
    rw [if_pos counts, if_pos (stops.mpr closed)]
    exact ⟨_, rfl, rfl⟩
  | unknown counts opened other =>
    rw [if_pos counts, if_neg (not_ended_of_opened stops opened), readLine_of_unnamed other]
    exact ⟨_, rfl, rfl⟩
  | bare counts opened named alone =>
    obtain ⟨fault, failed, said⟩ := readLine_of_bare named alone
    rw [if_pos counts, if_neg (not_ended_of_opened stops opened), failed]
    exact ⟨fault, rfl, said⟩

theorem add_of_not_bad (stops : ended done = true ↔ ∃ earlier ∈ before, closes earlier = true)
    (fine : ∀ message, ¬Bad before line message) (number : Nat) :
    ∃ given, List.Forall₂ Given ([line].filter significant) given ∧
      add number done line = .ok (given.reverse ++ done) := by
  unfold add
  by_cases counts : significant line = true
  · have goesOn : ¬ended done = true := fun stop => fine _ (.behindEof counts (stops.mp stop))
    have opened : ∀ earlier ∈ before, ¬closes earlier = true := fun earlier member closing =>
      goesOn (stops.mpr ⟨earlier, member, closing⟩)
    rw [if_pos counts, if_neg goesOn, List.filter_cons, if_pos counts, List.filter_nil]
    cases read : readLine line with
    | ok token => exact ⟨[token], .cons (given_of_readLine read) .nil, rfl⟩
    | error fault => exact absurd (bad_of_readLine counts opened read) (fine fault.message)
  · rw [if_neg counts, List.filter_cons, if_neg counts, List.filter_nil]
    exact ⟨[], .nil, rfl⟩

end Step

theorem clean_nil : Clean [] := by
  intro before line after split
  have lengths := congrArg List.length split
  simp at lengths

theorem clean_concat_iff {front : List (List Char)} {last : List Char} :
    Clean (front ++ [last]) ↔ Clean front ∧ ∀ message, ¬Bad front last message := by
  constructor
  · intro clean
    refine ⟨?_, clean front last [] rfl⟩
    intro before line after split
    apply clean before line (after ++ [last])
    rw [split, List.append_assoc, List.cons_append]
  · rintro ⟨clean, fine⟩ before line after split
    rcases List.eq_nil_or_concat after with rfl | ⟨rest, other, rfl⟩
    · obtain ⟨rfl, same⟩ := List.append_inj' split rfl
      cases same
      exact fine
    · rw [List.concat_eq_append, ← List.cons_append, ← List.append_assoc] at split
      obtain ⟨rfl, -⟩ := List.append_inj' split rfl
      exact clean before line rest rfl

theorem exists_first_bad {lines : List (List Char)} (unclean : ¬Clean lines) :
    ∃ before line after message, lines = before ++ line :: after ∧ Bad before line message ∧
      Clean before := by
  induction lines using List.reverseRecOn with
  | nil => exact absurd clean_nil unclean
  | append_singleton front last ih =>
    by_cases clean : Clean front
    · have bad : ∃ message, Bad front last message := by
        by_contra none
        exact unclean (clean_concat_iff.mpr ⟨clean, not_exists.mp none⟩)
      obtain ⟨message, bad⟩ := bad
      exact ⟨front, last, [], message, rfl, bad, clean⟩
    · obtain ⟨before, line, after, message, split, bad, earlier⟩ := ih clean
      refine ⟨before, line, after ++ [last], message, ?_, bad, earlier⟩
      rw [split, List.append_assoc, List.cons_append]

theorem ended_iff_of_gather {lines : List (List Char)} {done : List Token}
    (ran : gather 1 [] lines = .ok done) :
    ended done = true ↔ ∃ line ∈ lines, closes line = true := by
  rw [ended_of_gather ran]
  simp [ended]

theorem gather_of_clean {lines : List (List Char)} (clean : Clean lines) :
    ∃ body, List.Forall₂ Given (lines.filter significant) body ∧
      gather 1 [] lines = .ok body.reverse := by
  -- From the end of the lines, since a line is judged by those in front of it.
  induction lines using List.reverseRecOn with
  | nil => exact ⟨[], .nil, rfl⟩
  | append_singleton front last ih =>
    obtain ⟨earlier, fine⟩ := clean_concat_iff.mp clean
    obtain ⟨body, given, ran⟩ := ih earlier
    obtain ⟨more, fits, step⟩ := add_of_not_bad (ended_iff_of_gather ran) fine (1 + front.length)
    refine ⟨body ++ more, ?_, ?_⟩
    · rw [List.filter_append]
      exact List.rel_append given fits
    · rw [gather_append, ran, List.reverse_append]
      change gather (1 + front.length) body.reverse [last] = _
      rw [gather_cons, step]
      rfl

theorem gather_of_bad {before : List (List Char)} {line : List Char} {message : String}
    (clean : Clean before) (bad : Bad before line message) (after : List (List Char)) :
    ∃ fault : Fault, gather 1 [] (before ++ line :: after) = .error ⟨fault, 1 + before.length⟩ ∧
      fault.message = message := by
  obtain ⟨body, -, ran⟩ := gather_of_clean clean
  obtain ⟨fault, step, said⟩ := add_of_bad (ended_iff_of_gather ran) bad (1 + before.length)
  refine ⟨fault, ?_, said⟩
  rw [gather_append, ran]
  change gather (1 + before.length) body.reverse (line :: after) = _
  rw [gather_cons, step]
  rfl

/-- A listing is refused just if one of its lines is bad, and then for the first one that is.
Otherwise its tokens are those of the lines that count, and an `eof` behind them unless one of the
lines gives it. -/
theorem read_first_bad (text : String) :
    ((∃ error, read text = .error error) ↔
        ∃ before line after message,
          Text.lines text.toList = before ++ line :: after ∧ Bad before line message) ∧
      (∀ error, read text = .error error →
        ∃ before line after,
          Text.lines text.toList = before ++ line :: after ∧ Clean before ∧
            Bad before line error.fault.message ∧ error.line = before.length + 1) ∧
      (Clean (Text.lines text.toList) →
        ∃ body, List.Forall₂ Given ((Text.lines text.toList).filter significant) body ∧
          ((∃ line ∈ Text.lines text.toList, closes line = true) → read text = .ok body) ∧
          ((∀ line ∈ Text.lines text.toList, ¬closes line = true) →
            read text = .ok (body ++ [Token.eof]))) := by
  rw [read_eq_gather]
  by_cases clean : Clean (Text.lines text.toList)
  · obtain ⟨body, given, ran⟩ := gather_of_clean clean
    have stops := ended_iff_of_gather ran
    rw [ran]
    refine ⟨⟨?_, ?_⟩, ?_, ?_⟩
    · rintro ⟨error, failed⟩
      cases failed
    · rintro ⟨before, line, after, message, split, bad⟩
      exact absurd bad (clean before line after split message)
    · intro error failed
      cases failed
    · intro _
      refine ⟨body, given, ?_, ?_⟩
      · intro closed
        change Except.ok (finish body.reverse) = _
        rw [finish_of_ended (stops.mpr closed), List.reverse_reverse]
      · intro opened
        change Except.ok (finish body.reverse) = _
        rw [finish_of_not_ended (not_ended_of_opened stops opened), List.reverse_reverse]
  · obtain ⟨before, line, after, message, split, bad, earlier⟩ := exists_first_bad clean
    obtain ⟨fault, ran, said⟩ := gather_of_bad earlier bad after
    rw [← split] at ran
    rw [ran]
    refine ⟨⟨fun _ => ⟨before, line, after, message, split, bad⟩, fun _ => ⟨_, rfl⟩⟩, ?_, ?_⟩
    · intro error failed
      cases failed
      refine ⟨before, line, after, split, earlier, ?_, Nat.add_comm 1 before.length⟩
      rw [said]
      exact bad
    · intro unbroken
      exact absurd unbroken clean

theorem read_first_bad_causes :
    (∃ before line after, Text.lines "eof\n# x\n\nwhile\nnumber".toList = before ++ line :: after ∧
        Clean before ∧ Bad before line "Token after 'eof'" ∧ 4 = before.length + 1) ∧
      (∃ before line after, Text.lines "int\r\n\n number\u2028\nwhile".toList =
          before ++ line :: after ∧
        Clean before ∧ Bad before line "Missing text for 'number' token" ∧ 3 = before.length + 1) ∧
      ∃ body, List.Forall₂ Given ["plus\u2028- ".toList, "identifier int \r".toList] body ∧
        read "plus\u2028- \n#\nidentifier int \r" = .ok (body ++ [Token.eof]) := by
  have behind : read "eof\n# x\n\nwhile\nnumber" = .error ⟨.afterEof, 4⟩ := rfl
  have bare : read "int\r\n\n number\u2028\nwhile" = .error ⟨.missingText .number, 3⟩ := rfl
  have done : read "plus\u2028- \n#\nidentifier int \r" =
      .ok [⟨.plus, "-"⟩, ⟨.identifier, "int"⟩, Token.eof] := rfl
  refine ⟨(read_first_bad _).2.1 _ behind, (read_first_bad _).2.1 _ bare, ?_⟩
  have clean : Clean (Text.lines "plus\u2028- \n#\nidentifier int \r".toList) := by
    intro before line after split message bad
    obtain ⟨error, failed⟩ := (read_first_bad _).1.mpr ⟨before, line, after, message, split, bad⟩
    rw [done] at failed
    cases failed
  have unclosed : (Text.lines "plus\u2028- \n#\nidentifier int \r".toList).all
      (fun line => !closes line) = true := rfl
  obtain ⟨body, given, -, opened⟩ := (read_first_bad _).2.2 clean
  exact ⟨body, given, opened (by simpa using unclosed)⟩

end StatementParser.Listing
