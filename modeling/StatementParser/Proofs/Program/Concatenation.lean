import StatementParser.Proofs.Program.Outcome
import StatementParser.Proofs.Rule.Sequence

/-!
Programs can be put one behind the other. Behind a program the parser is where it began: no
conditional is open and no token of what follows has been taken. So what follows is parsed as it is
on its own, and only counted from further on.
-/
namespace StatementParser.Program

open Node (Fits Written)
open Rule

theorem run_statements_at (tokens : List Token) (position : Nat) (log : List Event) :
    ∃ last, statements.run ⟨position, tokens, 0, log⟩ =
      match parse tokens with
      | .ok node => .ok node last
      | .error error => .error { error with position := error.position + position } last := by
  have reads : Reads (.block (some maxNesting) 0) statements (State.start tokens) :=
    reads_program (some maxNesting) tokens
  obtain ⟨effect, rest, acts, -⟩ := reads
  have moved := acts.again ⟨position, tokens, 0, log⟩ rest rfl acts.ahead rfl
  have alone := acts.run
  refine ⟨effect.after ⟨position, tokens, 0, log⟩ rest, ?_⟩
  cases result : effect.result with
  | ok node =>
    rw [Effect.outcome_ok result] at moved alone
    rw [parse_of_ok alone]
    exact moved
  | error reason =>
    rw [Effect.outcome_error result] at moved alone
    rw [parse_of_error alone, moved]
    simp [State.start, Nat.add_comm]

theorem run_statements_append {body : List Node} (all : ∀ node ∈ body, Fits (some maxNesting) 0 node)
    {first : List Token} (written : Written (.statements body) first) (second : List Token) :
    ∃ later, statements.run (State.start (first ++ second)) =
      (statements >>= fun node => pure (.statements (body ++ node.children))).run
        ⟨first.length, second, 0, later⟩ := by
  obtain ⟨later, ran⟩ := run_statementsBehind_append (within_zero _) (.inr rfl) all [] written second 0 []
  rw [List.append_nil, Nat.zero_add] at ran
  refine ⟨later, ?_⟩
  calc
    statements.run (State.start (first ++ second))
        = (statementsBehind (some maxNesting) .eof body.reverse).run
            ⟨first.length, second, 0, later⟩ := ran
    _ = _ := by
      rw [run_statementsBehind, List.reverse_reverse]
      rfl

def behind (before : Node) (distance : Nat) : Except SyntaxError Node → Except SyntaxError Node
  | .ok after => .ok (.statements (before.children ++ after.children))
  | .error error => .error { error with position := error.position + distance }

/-- Tokens behind a program are parsed as they are on their own, whether they are accepted or not.
-/
theorem parse_append {first : List Token} {before : Node}
    (inner : ∀ token ∈ first, token.kind ≠ .eof) (accepted : parse first = .ok before)
    (second : List Token) :
    parse (first ++ second) = behind before first.length (parse second) := by
  obtain ⟨body, rfl, all, written⟩ := block_of_parse_ok accepted
  rw [Token.beforeEof_of_inner inner] at written
  obtain ⟨later, whole⟩ := run_statements_append all written second
  obtain ⟨last, alone⟩ := run_statements_at second first.length later
  rw [EStateM.run_bind, alone] at whole
  cases outcome : parse second with
  | ok after =>
    rw [outcome] at whole
    exact parse_of_ok whole
  | error error =>
    rw [outcome] at whole
    exact parse_of_error whole

/-- Behind `if (a) { }` the program `b = 1 + ;` fails at its semicolon, six tokens further on. -/
theorem parse_append_dangling :
    let first : List Token :=
      [⟨.ifWord, "if"⟩, ⟨.lparen, "("⟩, ⟨.identifier, "a"⟩, ⟨.rparen, ")"⟩, ⟨.lbrace, "\x7b"⟩,
        ⟨.rbrace, "\x7d"⟩]
    let second : List Token :=
      [⟨.identifier, "b"⟩, ⟨.assign, "="⟩, ⟨.number, "1"⟩, ⟨.plus, "+"⟩, ⟨.semicolon, ";"⟩,
        ⟨.eof, ""⟩]
    (∀ token ∈ first, token.kind ≠ .eof) ∧
      parse first = .ok (.statements [⟨.conditional, some "if", [.identifier "a", .statements []]⟩]) ∧
      parse second = .error ⟨.unexpected, ";", 4⟩ ∧
      parse (first ++ second) = .error ⟨.unexpected, ";", 10⟩ := by
  intro first second
  have inner : ∀ token ∈ first, token.kind ≠ .eof := by decide
  have accepted : parse first =
      .ok (.statements [⟨.conditional, some "if", [.identifier "a", .statements []]⟩]) := rfl
  have rejected : parse second = .error ⟨.unexpected, ";", 4⟩ := rfl
  have joined := parse_append inner accepted second
  rw [rejected] at joined
  exact ⟨inner, accepted, rejected, joined⟩

end StatementParser.Program
