import StatementParser.Proofs.Program.Location
import StatementParser.Proofs.Rule.Respelling

/-!
What a program is does not depend on how its tokens are spelt. With other texts for the tokens the
parse has the same outcome: the same tree with the new texts in the places of the old ones, or the
same error at the same token, shown with its new text.
-/
namespace StatementParser.Program

open Rule

variable {spelling : Spelling} {tokens : List Token}

theorem run_statements_respell (spelling : Spelling) (tokens : List Token) :
    statements.run (State.start (tokens.map (Token.respell spelling))) =
      respelt spelling (Node.respell spelling) (statements.run (State.start tokens)) :=
  follows_statements (some maxNesting) .eof (State.start tokens)

theorem parse_respell_of_ok {node : Node} (accepted : parse tokens = .ok node) :
    parse (tokens.map (Token.respell spelling)) = .ok (node.respell spelling) := by
  have ran := run_statements_respell spelling tokens
  cases outcome : statements.run (State.start tokens) with
  | ok other after =>
    rw [parse_of_ok outcome] at accepted
    cases accepted
    rw [outcome] at ran
    exact parse_of_ok ran
  | error error after =>
    rw [parse_of_error outcome] at accepted
    cases accepted

theorem parse_respell_of_error {error : SyntaxError} (rejected : parse tokens = .error error) :
    parse (tokens.map (Token.respell spelling)) =
      .error { error with
        found := ((tokens.map (Token.respell spelling)).getD error.position Token.eof).text } := by
  obtain ⟨after, outcome, -, ahead, -⟩ := exists_run_of_parseWithin_error rejected
  have ran := run_statements_respell spelling tokens
  have failed : statements.run (State.start tokens) = .error error after := outcome
  rw [failed] at ran
  have front : (after.respell spelling).current =
      (tokens.map (Token.respell spelling)).getD error.position Token.eof := by
    rw [← Token.first_drop, ← List.map_drop, ← ahead]
    rfl
  rw [parse_of_error ran, front]

/-- Respelling the tokens of a program respells its tree. Respelling other tokens leaves the error
where and what it is and only respells the text it shows, which is still empty behind the last
token. -/
theorem parse_respell (spelling : Spelling) (tokens : List Token) :
    (∀ node, parse tokens = .ok node →
        parse (tokens.map (Token.respell spelling)) = .ok (node.respell spelling)) ∧
      ∀ error, parse tokens = .error error →
        error.position ≤ tokens.length ∧
          parse (tokens.map (Token.respell spelling)) =
            .error ⟨error.reason,
              (tokens[error.position]?.map fun token => spelling token.kind error.found).getD "",
              error.position⟩ := by
  refine ⟨fun node accepted => parse_respell_of_ok accepted, ?_⟩
  intro error rejected
  obtain ⟨read, rest, refused⟩ := refused_of_parse_error rejected
  have inside : error.position ≤ tokens.length :=
    Nat.le_trans refused.position_le (List.takeWhile_sublist _).length_le
  refine ⟨inside, ?_⟩
  have shown : ((tokens.map (Token.respell spelling)).getD error.position Token.eof).text =
      (tokens[error.position]?.map fun token => spelling token.kind error.found).getD "" := by
    rw [List.getD_eq_getElem?_getD, List.getElem?_map, refused.found_at]
    cases tokens[error.position]? with
    | none => rfl
    | some token => rfl
  rw [parse_respell_of_error rejected, shown]

theorem parse_respell_named :
    let named : Spelling := fun kind text => kind.name ++ text
    let block : List Token :=
      [⟨.ifWord, "?"⟩, ⟨.lparen, "("⟩, ⟨.identifier, "a"⟩, ⟨.rparen, ")"⟩, ⟨.lbrace, "\x7b"⟩,
        ⟨.identifier, "b"⟩, ⟨.assign, ":"⟩, ⟨.number, "1"⟩, ⟨.semicolon, ";"⟩, ⟨.rbrace, "\x7d"⟩]
    let short : List Token := [⟨.intWord, "int"⟩, ⟨.identifier, "a"⟩]
    let ended : List Token := short ++ [⟨.eof, "."⟩]
    parse block = .ok (.statements [⟨.conditional, some "?", [.identifier "a",
        .statements [⟨.assignment, some ":", [.identifier "b", .number "1"]⟩]]⟩]) ∧
      parse (block.map (Token.respell named)) =
        .ok (.statements [⟨.conditional, some "if?", [.identifier "identifiera",
          .statements [⟨.assignment, some "assign:",
            [.identifier "identifierb", .number "number1"]⟩]]⟩]) ∧
      parse short = .error ⟨.semicolonAfterDeclaration, "", 2⟩ ∧
      parse (short.map (Token.respell named)) = .error ⟨.semicolonAfterDeclaration, "", 2⟩ ∧
      parse ended = .error ⟨.semicolonAfterDeclaration, ".", 2⟩ ∧
      parse (ended.map (Token.respell named)) = .error ⟨.semicolonAfterDeclaration, "eof.", 2⟩ := by
  intro named block short ended
  have accepted : parse block = .ok (.statements [⟨.conditional, some "?", [.identifier "a",
      .statements [⟨.assignment, some ":", [.identifier "b", .number "1"]⟩]]⟩]) := rfl
  have unfinished : parse short = .error ⟨.semicolonAfterDeclaration, "", 2⟩ := rfl
  have rejected : parse ended = .error ⟨.semicolonAfterDeclaration, ".", 2⟩ := rfl
  have tree := (parse_respell named block).1 _ accepted
  have atEnd := ((parse_respell named short).2 _ unfinished).2
  have atEof := ((parse_respell named ended).2 _ rejected).2
  exact ⟨accepted, tree, unfinished, atEnd, rejected, atEof⟩

end StatementParser.Program
