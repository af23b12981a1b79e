import StatementParser.Proofs.Listing.Lines

/-!
Listings can be put one behind the other, with a line feed between. What the first one lacks is not
made up by the second, and an `eof` of the first one closes both. Otherwise the second one is read
as it is on its own, and its lines are only counted from further on.
-/
namespace StatementParser.Listing

open Text (lines)

theorem read_feed (before behind : String) :
    read (before ++ "\n" ++ behind) =
      ((gather 1 [] (lines before.toList)).bind fun done =>
        gather (1 + (1 + before.toList.count '\n')) done (lines behind.toList)).map finish := by
  have whole : (before ++ "\n" ++ behind).toList = before.toList ++ '\n' :: behind.toList := by
    simp
  rw [read_eq_gather, whole, Text.lines_append_feed, gather_append, Text.length_lines]

variable {before : String}

theorem read_feed_of_error {error : Error} (failed : read before = .error error)
    (behind : String) : read (before ++ "\n" ++ behind) = .error error := by
  rw [read_eq_gather] at failed
  rw [read_feed]
  cases ran : gather 1 [] (lines before.toList) with
  | ok done =>
    rw [ran] at failed
    cases failed
  | error other =>
    rw [ran] at failed
    cases failed
    rfl

theorem read_feed_of_open {done : List Token}
    (ran : gather 1 [] (lines before.toList) = .ok done) (goesOn : ¬ended done = true)
    (behind : String) :
    read (before ++ "\n" ++ behind) =
      ((read behind).map (done.reverse ++ ·)).mapError
        (Error.behind (1 + before.toList.count '\n')) := by
  have alone := gather_behind goesOn 1 [] (lines behind.toList)
  rw [List.nil_append] at alone
  rw [read_feed, ran, Except.bind, gather_shift, alone, read_eq_gather behind]
  cases gather 1 [] (lines behind.toList) with
  | ok others => exact congrArg Except.ok (finish_append goesOn others)
  | error error => rfl

theorem read_feed_of_ended {done : List Token}
    (ran : gather 1 [] (lines before.toList) = .ok done) (stopped : ended done = true)
    (behind : String) :
    read (before ++ "\n" ++ behind) =
      ((lines behind.toList).findIdx? significant).elim (.ok (finish done)) fun index =>
        .error ⟨.afterEof, 1 + (1 + before.toList.count '\n') + index⟩ := by
  rw [read_feed, ran, Except.bind, gather_of_ended stopped]
  cases (lines behind.toList).findIdx? significant with
  | none => rfl
  | some index => rfl

theorem exists_gather_of_read {tokens : List Token} (ran : read before = .ok tokens) :
    ∃ done, gather 1 [] (lines before.toList) = .ok done ∧ tokens = finish done := by
  rw [read_eq_gather] at ran
  cases found : gather 1 [] (lines before.toList) with
  | ok done =>
    rw [found] at ran
    cases ran
    exact ⟨done, rfl, rfl⟩
  | error error =>
    rw [found] at ran
    cases ran

/-- A listing is read from what two listings give on their own: the first fault of the first one, or
else, if the first one has no `eof`, the tokens of both or the first fault of the second; and behind
an `eof` the first line of the second that counts is refused. -/
theorem read_append (before behind : String) :
    (∀ error, read before = .error error →
        read (before ++ "\n" ++ behind) = .error error) ∧
      (∀ tokens, read before = .ok tokens → (∀ line ∈ lines before.toList, ¬closes line = true) →
        (∀ others, read behind = .ok others →
            read (before ++ "\n" ++ behind) = .ok (tokens.dropLast ++ others)) ∧
          ∀ error, read behind = .error error →
            read (before ++ "\n" ++ behind) =
              .error ⟨error.fault, error.line + (1 + before.toList.count '\n')⟩) ∧
      (∀ tokens, read before = .ok tokens → (∃ line ∈ lines before.toList, closes line = true) →
        ((lines behind.toList).findIdx? significant = none →
            read (before ++ "\n" ++ behind) = .ok tokens) ∧
          ∀ index, (lines behind.toList).findIdx? significant = some index →
            ∃ error, read (before ++ "\n" ++ behind) = .error error ∧
              error.fault.message = "Token after 'eof'" ∧
              error.line = (1 + before.toList.count '\n') + (index + 1)) := by
  refine ⟨fun error failed => read_feed_of_error failed behind, ?_, ?_⟩
  · intro tokens ran without
    obtain ⟨done, gathered, rfl⟩ := exists_gather_of_read ran
    have goesOn : ¬ended done = true := by
      rw [ended_of_gather gathered]
      rintro (never | ⟨line, member, closing⟩)
      · cases never
      · exact without line member closing
    rw [read_feed_of_open gathered goesOn, finish_of_not_ended goesOn, List.dropLast_concat]
    constructor
    · intro others found
      rw [found]
      rfl
    · intro error failed
      rw [failed]
      rfl
  · intro tokens ran closing
    obtain ⟨done, gathered, rfl⟩ := exists_gather_of_read ran
    have stopped : ended done = true := (ended_of_gather gathered).mpr (.inr closing)
    rw [read_feed_of_ended gathered stopped]
    constructor
    · intro blank
      rw [blank]
      rfl
    · intro index found
      rw [found]
      refine ⟨_, rfl, rfl, ?_⟩
      dsimp only
      omega

theorem read_append_joints :
    read "# a\r\nint\r" = .ok [⟨.intWord, "int"⟩, Token.eof] ∧
      read ("# a\r\nint\r" ++ "\n" ++ "\nplus\n") =
        .ok [⟨.intWord, "int"⟩, ⟨.plus, "+"⟩, Token.eof] ∧
      read ("# a\r\nint\r" ++ "\n" ++ "number") = .error ⟨.missingText .number, 3⟩ ∧
      read "eof ." = .ok [⟨.eof, "."⟩] ∧
      ∃ error, read ("eof ." ++ "\n" ++ " \nwhile") = .error error ∧
        error.fault.message = "Token after 'eof'" ∧ error.line = 3 := by
  have opened : read "# a\r\nint\r" = .ok [⟨.intWord, "int"⟩, Token.eof] := rfl
  have closed : read "eof ." = .ok [⟨.eof, "."⟩] := rfl
  have unclosed : (lines "# a\r\nint\r".toList).all (fun line => !closes line) = true := rfl
  have without : ∀ line ∈ lines "# a\r\nint\r".toList, ¬closes line = true := by simpa using unclosed
  have sums := ((read_append "# a\r\nint\r" "\nplus\n").2.1 _ opened without).1
  have faults := ((read_append "# a\r\nint\r" "number").2.1 _ opened without).2
  have ends := ((read_append "eof ." " \nwhile").2.2 _ closed ⟨_, List.mem_cons_self, rfl⟩).2
  exact ⟨opened, sums _ rfl, faults ⟨.missingText .number, 1⟩ rfl, closed, ends 1 rfl⟩

end StatementParser.Listing
