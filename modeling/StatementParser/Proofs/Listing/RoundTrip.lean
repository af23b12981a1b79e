import StatementParser.Proofs.Listing.Entry

/-!
Listings and the tokens they hold. Whatever is read ends in its only `eof`, with texts that a line
can give; and all such tokens can be written as a listing from which they are read again.
-/
namespace StatementParser.Listing

/-- The tokens end in their only `eof`, and each of them can be given by a line. -/
structure Terminated (tokens : List Token) : Prop where
  listable : ∀ token ∈ tokens, token.Listable
  last : ∃ body last, tokens = body ++ [last] ∧ last.kind = .eof ∧
    ∀ token ∈ body, token.kind ≠ .eof

/-- What is kept while lines are read: of the tokens so far only the latest may be an `eof`. -/
structure Kept (done : List Token) : Prop where
  listable : ∀ token ∈ done, token.Listable
  inner : ∀ token ∈ done.tail, token.kind ≠ .eof

theorem kept_nil : Kept [] :=
  ⟨by simp, by simp⟩

theorem ended_cons_iff {token : Token} {done : List Token} :
    ended (token :: done) = true ↔ token.kind = .eof := by
  simp [ended, Token.isEof]

theorem not_ended {done : List Token} (inner : ∀ token ∈ done, token.kind ≠ .eof) :
    ¬ended done = true := by
  cases done with
  | nil => simp [ended]
  | cons latest done =>
    intro stop
    exact inner latest List.mem_cons_self (ended_cons_iff.mp stop)

theorem Kept.ne_eof {done : List Token} (kept : Kept done) (goesOn : ¬ended done = true) :
    ∀ token ∈ done, token.kind ≠ .eof := by
  cases done with
  | nil => simp
  | cons latest done =>
    rw [List.forall_mem_cons]
    refine ⟨?_, kept.inner⟩
    intro stop
    exact goesOn (ended_cons_iff.mpr stop)

theorem Kept.cons {done : List Token} (kept : Kept done) (goesOn : ¬ended done = true)
    {token : Token} (listable : token.Listable) : Kept (token :: done) where
  listable := List.forall_mem_cons.mpr ⟨listable, kept.listable⟩
  inner := kept.ne_eof goesOn

theorem Kept.terminated {done : List Token} (kept : Kept done) : Terminated (finish done) := by
  unfold finish
  by_cases stopped : ended done = true
  · rw [if_pos stopped]
    cases done with
    | nil => cases stopped
    | cons last done =>
      refine ⟨fun token member => kept.listable token (List.mem_reverse.mp member),
        done.reverse, last, List.reverse_cons, ended_cons_iff.mp stopped, ?_⟩
      intro token member
      exact kept.inner token (List.mem_reverse.mp member)
  · rw [if_neg stopped]
    have supplied : Token.eof.Listable := Token.listable_lexeme rfl
    have closed : Kept (Token.eof :: done) := kept.cons stopped supplied
    refine ⟨fun token member => closed.listable token (List.mem_reverse.mp member),
      done.reverse, Token.eof, List.reverse_cons, rfl, ?_⟩
    intro token member
    exact kept.ne_eof stopped token (List.mem_reverse.mp member)

theorem terminated_of_readLines {lines : List (List Char)} (single : ∀ line ∈ lines, '\n' ∉ line)
    {number : Nat} {done tokens : List Token} (kept : Kept done)
    (ran : readLines number done lines = .ok tokens) : Terminated tokens := by
  induction lines generalizing number done with
  | nil =>
    cases ran
    exact kept.terminated
  | cons line lines ih =>
    rw [List.forall_mem_cons] at single
    rw [readLines] at ran
    split at ran
    · split at ran
      · cases ran
      next goesOn =>
        split at ran
        next token found =>
          exact ih single.2 (kept.cons goesOn (listable_of_readLine single.1 found)) ran
        next => cases ran
    · exact ih single.2 kept ran

theorem terminated_of_read {text : String} {tokens : List Token} (ran : read text = .ok tokens) :
    Terminated tokens :=
  terminated_of_readLines (fun _ => Text.no_feed_of_mem_lines) kept_nil ran

theorem readLines_writeToken {token : Token} (listable : token.Listable) (number : Nat)
    {done : List Token} (goesOn : ¬ended done = true) (rest : List (List Char)) :
    readLines number done ((writeToken token).toList :: rest) =
      readLines (number + 1) (token :: done) rest := by
  rw [readLines, if_pos (significant_writeToken listable), if_neg goesOn,
    readLine_writeToken listable]

theorem readLines_map_writeToken {body : List Token} (listable : ∀ token ∈ body, token.Listable)
    (inner : ∀ token ∈ body, token.kind ≠ .eof) (number : Nat) {done : List Token}
    (goesOn : ¬ended done = true) (rest : List (List Char)) :
    readLines number done (body.map (fun token => (writeToken token).toList) ++ rest) =
      readLines (number + body.length) (body.reverse ++ done) rest := by
  induction body generalizing number done with
  | nil => rfl
  | cons token body ih =>
    rw [List.forall_mem_cons] at listable inner
    have continued : ¬ended (token :: done) = true := fun stop => inner.1 (ended_cons_iff.mp stop)
    rw [List.map_cons, List.cons_append, readLines_writeToken listable.1 number goesOn,
      ih listable.2 inner.2 (number + 1) continued, List.reverse_cons, List.append_assoc,
      List.length_cons, Nat.add_assoc, Nat.add_comm 1]
    rfl

theorem lines_write {tokens : List Token} (filled : tokens ≠ [])
    (listable : ∀ token ∈ tokens, token.Listable) :
    Text.lines (write tokens).toList = tokens.map fun token => (writeToken token).toList := by
  have parts : (write tokens).toList =
      ['\n'].intercalate (tokens.map fun token => (writeToken token).toList) := by
    rw [write, String.toList_intercalate, List.map_map]
    rfl
  rw [parts, Text.lines_intercalate (by simpa using filled)]
  intro line member
  obtain ⟨token, found, rfl⟩ := List.mem_map.mp member
  exact no_feed_writeToken (listable token found)

/-- Reading yields only tokens that end in their only `eof` and can be given by lines, and all of
these are read from the listing that is written for them. -/
theorem read_write_terminated :
    (∀ text tokens, read text = .ok tokens → Terminated tokens) ∧
      ∀ tokens, Terminated tokens → read (write tokens) = .ok tokens := by
  constructor
  · intro text tokens ran
    exact terminated_of_readLines (fun line => Text.no_feed_of_mem_lines) kept_nil ran
  · intro tokens terminated
    obtain ⟨listable, body, last, rfl, stop, inner⟩ := terminated
    have lines := lines_write (by simp) listable
    rw [List.forall_mem_append, List.forall_mem_singleton] at listable
    have goesOn : ¬ended (body.reverse ++ []) = true := by
      apply not_ended
      simpa using inner
    rw [read, lines, List.map_append, List.map_singleton,
      readLines_map_writeToken listable.1 inner 1 (by simp [ended]),
      readLines_writeToken listable.2 _ goesOn, readLines, finish,
      if_pos (ended_cons_iff.mpr stop), List.append_nil, List.reverse_cons, List.reverse_reverse]

theorem read_write_terminated_blanks :
    let tokens : List Token := [⟨.number, "1\r\u20282"⟩, ⟨.plus, "+"⟩, ⟨.eof, "#"⟩]
    read "# 1\r\n\u2003number\u00A0 1\r\u20282 \r\n\nplus\neof #\n" = .ok tokens ∧
      Terminated tokens ∧ write tokens = "number 1\r\u20282\nplus +\neof #" ∧
      read (write tokens) = .ok tokens := by
  intro tokens
  have ran : read "# 1\r\n\u2003number\u00A0 1\r\u20282 \r\n\nplus\neof #\n" = .ok tokens := rfl
  have terminated := read_write_terminated.1 _ tokens ran
  exact ⟨ran, terminated, rfl, read_write_terminated.2 tokens terminated⟩

end StatementParser.Listing
