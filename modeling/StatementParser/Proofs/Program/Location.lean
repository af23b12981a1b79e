import StatementParser.Proofs.Program.Outcome

/-!
A syntax error stands at the first token that no program can have at its place. The tokens in front
of it begin some program, and with it they begin none.
-/
namespace StatementParser.Program

variable {tokens read rest : List Token} {error : SyntaxError}

theorem Refused.take_position (refused : Refused tokens error read rest) :
    tokens.take error.position = read := by
  rw [refused.split, refused.position]
  exact List.take_left

theorem Refused.position_le (refused : Refused tokens error read rest) :
    error.position ≤ (Token.beforeEof tokens).length := by
  rw [refused.split, refused.position, Token.beforeEof_append refused.inner, List.length_append]
  omega

theorem Refused.found_at (refused : Refused tokens error read rest) :
    error.found = (tokens[error.position]?.map Token.text).getD "" := by
  rw [refused.found, refused.position, refused.split,
    List.getElem?_append_right (Nat.le_refl _), Nat.sub_self]
  cases rest with
  | nil => rfl
  | cons token rest => rfl

theorem Refused.completable (refused : Refused tokens error read rest) :
    ∃ more node, parse (read ++ more) = .ok node := by
  obtain ⟨more, node, accepted⟩ := refused.repair ⟨error.reason.remedy, ""⟩ rfl
  exact ⟨_, node, accepted⟩

theorem Refused.not_accepted (refused : Refused tokens error read rest)
    (inside : error.position < tokens.length) (more : List Token) (node : Node) :
    parse (tokens.take (error.position + 1) ++ more) ≠ .ok node := by
  have split : tokens = read ++ rest := refused.split
  cases rest with
  | nil =>
    rw [split, refused.position, List.append_nil] at inside
    omega
  | cons token rest =>
    have front : tokens.take (error.position + 1) = read ++ [token] := by
      rw [split, refused.position]
      exact List.take_length_add_append 1
    rw [front, List.append_assoc, refused.again ([token] ++ more) rfl]
    intro accepted
    cases accepted

/-- What is read in front of a syntax error can still become a program, and the token at which it
stands rules that out. -/
theorem error_located (rejected : parse tokens = .error error) :
    error.position ≤ (Token.beforeEof tokens).length ∧
      error.found = (tokens[error.position]?.map Token.text).getD "" ∧
      (∃ more node, parse (tokens.take error.position ++ more) = .ok node) ∧
      (error.position < tokens.length →
        ∀ more node, parse (tokens.take (error.position + 1) ++ more) ≠ .ok node) := by
  obtain ⟨read, rest, refused⟩ := refused_of_parse_error rejected
  refine ⟨refused.position_le, refused.found_at, ?_, refused.not_accepted⟩
  rw [refused.take_position]
  exact refused.completable

theorem error_located_number :
    let tokens : List Token :=
      [⟨.ifWord, "if"⟩, ⟨.lparen, "("⟩, ⟨.identifier, "a"⟩, ⟨.rparen, ")"⟩, ⟨.lbrace, "\x7b"⟩,
        ⟨.number, "1"⟩, ⟨.assign, "="⟩, ⟨.number, "2"⟩, ⟨.semicolon, ";"⟩, ⟨.eof, ""⟩]
    parse tokens = .error ⟨.unexpected, "1", 5⟩ ∧
      (∃ more node, parse (tokens.take 5 ++ more) = .ok node) ∧
      ∀ more node, parse (tokens.take 6 ++ more) ≠ .ok node := by
  intro tokens
  have rejected : parse tokens = .error ⟨.unexpected, "1", 5⟩ := rfl
  obtain ⟨_, _, begins, ends⟩ := error_located rejected
  exact ⟨rejected, begins, ends (by decide)⟩

end StatementParser.Program
