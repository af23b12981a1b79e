import StatementParser.Proofs.Program.Outcome

/-!
A parse is decided by the tokens up to one of them: the one at which it fails, or the first `eof`.
What stands behind that token is never looked at, and whether the tokens end there or go on with an
`eof` makes no difference.
-/
namespace StatementParser

theorem Token.exists_append_of_getD {read rest other : List Token}
    (inner : ∀ token ∈ read, token.kind ≠ .eof)
    (same : ∀ index ≤ read.length,
      other.getD index Token.eof = (read ++ rest).getD index Token.eof) :
    ∃ more, other = read ++ more ∧ first more = first rest := by
  induction read generalizing other with
  | nil =>
    refine ⟨other, rfl, ?_⟩
    calc
      first other = other.getD 0 Token.eof := first_drop other 0
      _ = rest.getD 0 Token.eof := same 0 (Nat.le_refl 0)
      _ = first rest := (first_drop rest 0).symm
  | cons token read ih =>
    rw [List.forall_mem_cons] at inner
    have front : other.getD 0 Token.eof = token := same 0 (Nat.zero_le _)
    cases other with
    | nil =>
      have kinds : token.kind = .eof := congrArg Token.kind front.symm
      exact absurd kinds inner.1
    | cons start behind =>
      have begun : start = token := front
      have further : ∀ index ≤ read.length,
          behind.getD index Token.eof = (read ++ rest).getD index Token.eof := by
        intro index bound
        exact same (index + 1) (Nat.succ_le_succ bound)
      obtain ⟨more, split, next⟩ := ih inner.2 further
      exact ⟨more, by rw [begun, split, List.cons_append], next⟩

namespace Program

open Rule

/-- The index of the token that decides: where the parse fails, or where the program ends. -/
def decision (tokens : List Token) : Nat :=
  match parse tokens with
  | .ok _ => (Token.beforeEof tokens).length
  | .error error => error.position

theorem decision_of_ok {tokens : List Token} {node : Node} (accepted : parse tokens = .ok node) :
    decision tokens = (Token.beforeEof tokens).length := by
  rw [decision, accepted]

theorem decision_of_error {tokens : List Token} {error : SyntaxError}
    (rejected : parse tokens = .error error) : decision tokens = error.position := by
  rw [decision, rejected]

/-- The tokens are read up to the one that decides, and its like decides the same. -/
structure Settled (tokens read rest : List Token) : Prop where
  split : tokens = read ++ rest
  inner : ∀ token ∈ read, token.kind ≠ .eof
  decided : decision tokens = read.length
  again : ∀ more, Token.first more = Token.first rest → run (read ++ more) = run tokens

theorem exists_settled (tokens : List Token) : ∃ read rest, Settled tokens read rest := by
  obtain ⟨effect, rest, acts, -⟩ := reads_program (some maxNesting) tokens
  refine ⟨effect.read, rest, acts.ahead, acts.inner, ?_, ?_⟩
  · have ran := acts.run
    cases result : effect.result with
    | ok node =>
      rw [Effect.outcome_ok result] at ran
      rw [decision_of_ok (parse_of_ok ran), beforeEof_of_acts acts result]
    | error reason =>
      rw [Effect.outcome_error result] at ran
      rw [decision_of_error (parse_of_error ran)]
      exact Nat.zero_add _
  · intro more same
    have here := acts.run
    have there := acts.again (State.start (effect.read ++ more)) more rfl rfl same
    cases result : effect.result with
    | ok node =>
      rw [Effect.outcome_ok result] at here there
      rw [run, run, parseWithin_of_ok here, parseWithin_of_ok there]
      rfl
    | error reason =>
      rw [Effect.outcome_error result] at here there
      rw [run, run, parseWithin_of_error here, parseWithin_of_error there, same]
      rfl

variable {tokens read rest : List Token}

theorem Settled.run_eq (settled : Settled tokens read rest) {other : List Token}
    (same : ∀ index ≤ decision tokens,
      other.getD index Token.eof = tokens.getD index Token.eof) : run other = run tokens := by
  rw [settled.decided, settled.split] at same
  obtain ⟨more, split, next⟩ := Token.exists_append_of_getD settled.inner same
  rw [split]
  exact settled.again more next

theorem Settled.run_append_eof (settled : Settled tokens read rest) (more : List Token) :
    run (tokens ++ Token.eof :: more) = run tokens := by
  have next : Token.first (rest ++ Token.eof :: more) = Token.first rest := by
    cases rest with
    | nil => rfl
    | cons token rest => rfl
  have ran := settled.again (rest ++ Token.eof :: more) next
  rw [← List.append_assoc, ← settled.split] at ran
  exact ran

theorem Settled.run_take_append (settled : Settled tokens read rest)
    (inside : decision tokens < tokens.length) (more : List Token) :
    run (tokens.take (decision tokens + 1) ++ more) = run tokens := by
  have split : tokens = read ++ rest := settled.split
  cases rest with
  | nil =>
    rw [settled.decided, split, List.append_nil] at inside
    omega
  | cons token rest =>
    have front : tokens.take (decision tokens + 1) = read ++ [token] := by
      rw [settled.decided, split]
      exact List.take_length_add_append 1
    rw [front, List.append_assoc]
    exact settled.again ([token] ++ more) rfl

/-- Tokens that are the same up to the one that decides have the same outcome, down to the events.
So an `eof` may be put behind all tokens, and what follows the token at which a parse fails may be
anything. -/
theorem run_eq_of_getD_eq (tokens : List Token) :
    (∀ other, (∀ index ≤ decision tokens,
        other.getD index Token.eof = tokens.getD index Token.eof) → run other = run tokens) ∧
      (∀ more, run (tokens ++ Token.eof :: more) = run tokens) ∧
      ∀ error, parse tokens = .error error → error.position < tokens.length →
        ∀ more, run (tokens.take (error.position + 1) ++ more) = run tokens := by
  obtain ⟨read, rest, settled⟩ := exists_settled tokens
  refine ⟨fun other same => settled.run_eq same, settled.run_append_eof, ?_⟩
  intro error rejected inside more
  rw [← decision_of_error rejected] at inside ⊢
  exact settled.run_take_append inside more

theorem run_eq_of_getD_eq_declaration :
    let short : List Token := [⟨.intWord, "int"⟩, ⟨.identifier, "a"⟩]
    let behind : List Token := [⟨.eof, ""⟩, ⟨.semicolon, ";"⟩]
    let wrong : List Token := [⟨.intWord, "int"⟩, ⟨.number, "1"⟩, ⟨.semicolon, ";"⟩]
    parse short = .error ⟨.semicolonAfterDeclaration, "", 2⟩ ∧
      run (short ++ behind) = run short ∧
      parse wrong = .error ⟨.identifierAfterInt, "1", 1⟩ ∧
      ∀ more, run ([⟨.intWord, "int"⟩, ⟨.number, "1"⟩] ++ more) = run wrong := by
  intro short behind wrong
  have unfinished : parse short = .error ⟨.semicolonAfterDeclaration, "", 2⟩ := rfl
  have rejected : parse wrong = .error ⟨.identifierAfterInt, "1", 1⟩ := rfl
  have same : ∀ index ≤ decision short,
      (short ++ behind).getD index Token.eof = short.getD index Token.eof := by
    rw [decision_of_error unfinished]
    decide
  have longer := (run_eq_of_getD_eq short).1 _ same
  have cut := (run_eq_of_getD_eq wrong).2.2 _ rejected (by decide)
  exact ⟨unfinished, longer, rejected, cut⟩

end Program
end StatementParser
