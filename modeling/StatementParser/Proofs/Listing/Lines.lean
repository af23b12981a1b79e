import StatementParser.Proofs.Listing.RoundTrip

/-!
Lines are read one behind the other. What a line adds depends on the lines before it only through
their number and through whether an `eof` has been read; so lines may be read in two parts, and the
second part adds what it adds on its own, with its faults counted from further on.
-/
namespace StatementParser.Listing

open Text (trim firstWord)

def Error.behind (distance : Nat) (error : Error) : Error :=
  { error with line := error.line + distance }

def add (number : Nat) (done : List Token) (line : List Char) : Except Error (List Token) :=
  if significant line then
    if ended done then .error ⟨.afterEof, number⟩
    else
      match readLine line with
      | .ok token => .ok (token :: done)
      | .error fault => .error ⟨fault, number⟩
  else .ok done

/-- The tokens read, latest first, with those of further lines, not yet closed. -/
def gather : Nat → List Token → List (List Char) → Except Error (List Token)
  | _, done, [] => .ok done
  | number, done, line :: rest => do gather (number + 1) (← add number done line) rest

theorem gather_cons (number : Nat) (done : List Token) (line : List Char)
    (rest : List (List Char)) :
    gather number done (line :: rest) =
      (add number done line).bind fun next => gather (number + 1) next rest := rfl

theorem readLines_eq_gather (number : Nat) (done : List Token) (lines : List (List Char)) :
    readLines number done lines = (gather number done lines).map finish := by
  induction lines generalizing number done with
  | nil => rfl
  | cons line lines ih =>
    rw [readLines, gather_cons, add]
    split
    · split
      · rfl
      · cases readLine line with
        | ok token => exact ih (number + 1) (token :: done)
        | error fault => rfl
    · exact ih (number + 1) done

theorem read_eq_gather (text : String) :
    read text = (gather 1 [] (Text.lines text.toList)).map finish :=
  readLines_eq_gather 1 [] (Text.lines text.toList)

theorem gather_append (number : Nat) (done : List Token) (front rest : List (List Char)) :
    gather number done (front ++ rest) =
      (gather number done front).bind fun next => gather (number + front.length) next rest := by
  induction front generalizing number done with
  | nil => rfl
  | cons line front ih =>
    rw [List.cons_append, gather_cons, gather_cons]
    cases add number done line with
    | error error => rfl
    | ok next =>
      have place : number + (line :: front).length = number + 1 + front.length := by
        rw [List.length_cons]
        omega
      rw [place]
      exact ih (number + 1) next

theorem add_shift (number distance : Nat) (done : List Token) (line : List Char) :
    add (number + distance) done line = (add number done line).mapError (Error.behind distance) := by
  unfold add
  split
  · split
    · rfl
    · cases readLine line with
      | ok token => rfl
      | error fault => rfl
  · rfl

theorem gather_shift (number distance : Nat) (done : List Token) (lines : List (List Char)) :
    gather (number + distance) done lines =
      (gather number done lines).mapError (Error.behind distance) := by
  induction lines generalizing number done with
  | nil => rfl
  | cons line lines ih =>
    rw [gather_cons, gather_cons, add_shift]
    cases add number done line with
    | error error => rfl
    | ok next =>
      have place : number + distance + 1 = number + 1 + distance := Nat.add_right_comm _ _ _
      rw [place]
      exact ih (number + 1) next

theorem ended_append {before : List Token} (goesOn : ¬ended before = true) (done : List Token) :
    ended (done ++ before) = ended done := by
  cases done with
  | nil => simpa [ended] using goesOn
  | cons token done => rfl

theorem add_append {before : List Token} (goesOn : ¬ended before = true) (number : Nat)
    (done : List Token) (line : List Char) :
    add number (done ++ before) line = (add number done line).map (· ++ before) := by
  unfold add
  rw [ended_append goesOn]
  split
  · split
    · rfl
    · cases readLine line with
      | ok token => rfl
      | error fault => rfl
  · rfl

theorem gather_behind {before : List Token} (goesOn : ¬ended before = true) (number : Nat)
    (done : List Token) (lines : List (List Char)) :
    gather number (done ++ before) lines = (gather number done lines).map (· ++ before) := by
  induction lines generalizing number done with
  | nil => rfl
  | cons line lines ih =>
    rw [gather_cons, gather_cons, add_append goesOn]
    cases add number done line with
    | error error => rfl
    | ok next => exact ih (number + 1) next

theorem finish_append {before : List Token} (goesOn : ¬ended before = true) (done : List Token) :
    finish (done ++ before) = before.reverse ++ finish done := by
  unfold finish
  rw [ended_append goesOn]
  split
  · rw [List.reverse_append]
  · rw [← List.cons_append, List.reverse_append]

theorem finish_of_ended {done : List Token} (stopped : ended done = true) :
    finish done = done.reverse := by
  rw [finish, if_pos stopped]

theorem finish_of_not_ended {done : List Token} (goesOn : ¬ended done = true) :
    finish done = done.reverse ++ [Token.eof] := by
  rw [finish, if_neg goesOn, List.reverse_cons]

def closes (line : List Char) : Bool :=
  firstWord (trim line) = Kind.eof.name.toList

theorem significant_of_closes {line : List Char} (closing : closes line = true) :
    significant line = true := by
  have word : firstWord (trim line) = ['e', 'o', 'f'] := of_decide_eq_true closing
  unfold significant
  cases entry : trim line with
  | nil =>
    rw [entry] at word
    cases word
  | cons first rest =>
    rw [entry, firstWord, List.takeWhile_cons] at word
    split at word
    · obtain ⟨rfl, -⟩ := List.cons.inj word
      rfl
    · cases word

theorem kind_of_complete {kind : Kind} {text : List Char} {token : Token}
    (done : complete kind text = .ok token) : token.kind = kind := by
  unfold complete at done
  split at done
  · split at done
    · cases done
      rfl
    · cases done
  · cases done
    rfl

theorem name_of_readLine {line : List Char} {token : Token} (done : readLine line = .ok token) :
    firstWord (trim line) = token.kind.name.toList := by
  unfold readLine at done
  dsimp only at done
  split at done
  next kind found =>
    rw [kind_of_complete done, ← Kind.ofName?_eq_some_iff.mp found, String.toList_ofList]
  next => cases done

theorem closes_iff_of_readLine {line : List Char} {token : Token}
    (done : readLine line = .ok token) : closes line = true ↔ token.kind = .eof := by
  unfold closes
  rw [name_of_readLine done, decide_eq_true_iff, String.toList_inj]
  constructor
  · exact Kind.name_injective
  · intro last
    rw [last]

theorem ended_of_add {number : Nat} {done next : List Token} {line : List Char}
    (ran : add number done line = .ok next) :
    ended next = true ↔ ended done = true ∨ closes line = true := by
  unfold add at ran
  split at ran
  · split at ran
    next => cases ran
    next goesOn =>
      cases found : readLine line with
      | ok token =>
        rw [found] at ran
        cases ran
        rw [ended_cons_iff, closes_iff_of_readLine found]
        simp [goesOn]
      | error fault =>
        rw [found] at ran
        cases ran
  next other =>
    cases ran
    have plain : ¬closes line = true := fun closing => other (significant_of_closes closing)
    simp [plain]

theorem ended_of_gather {number : Nat} {done after : List Token} {lines : List (List Char)}
    (ran : gather number done lines = .ok after) :
    ended after = true ↔ ended done = true ∨ ∃ line ∈ lines, closes line = true := by
  induction lines generalizing number done with
  | nil =>
    cases ran
    simp
  | cons line lines ih =>
    rw [gather_cons] at ran
    cases step : add number done line with
    | error error =>
      rw [step] at ran
      cases ran
    | ok next =>
      rw [step] at ran
      rw [ih ran, ended_of_add step]
      simp [or_assoc]

/-- Behind an `eof` nothing is read but the first line that counts, and that is refused. -/
theorem gather_of_ended {done : List Token} (stopped : ended done = true) (number : Nat)
    (lines : List (List Char)) :
    gather number done lines =
      (lines.findIdx? significant).elim (.ok done) fun index => .error ⟨.afterEof, number + index⟩ := by
  induction lines generalizing number with
  | nil => rfl
  | cons line lines ih =>
    rw [gather_cons, add, if_pos stopped, List.findIdx?_cons]
    split
    · rfl
    · change gather (number + 1) done lines = _
      rw [ih (number + 1)]
      cases lines.findIdx? significant with
      | none => rfl
      | some index =>
        simp only [Option.map_some, Option.elim_some]
        rw [Nat.add_assoc, Nat.add_comm 1]

end StatementParser.Listing
