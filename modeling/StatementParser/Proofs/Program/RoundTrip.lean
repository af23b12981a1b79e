import StatementParser.Proofs.Program.Outcome

/-!
Between the accepted tokens and the trees nothing is lost. The tree of a program has its tokens for
a source, each in its place, and from the source of a tree the tree comes back. Only texts that a
tree does not keep, those of the punctuation, and whatever stands behind an `eof` are left open.
-/
namespace StatementParser.Program

/-- Every token of an accepted program stands once in its tree, in order. -/
theorem tokens_of_accepted {tokens : List Token} {node : Node}
    (accepted : parse tokens = .ok node) :
    node.WellFormed ∧ node.nesting ≤ maxNesting ∧
      (Token.beforeEof tokens).map Token.plain = node.tokens :=
  wellFormed_of_block (block_of_parse_ok accepted)

theorem tokens_of_accepted_conditional :
    let read : List Token :=
      [⟨.ifWord, "if"⟩, ⟨.lparen, "<"⟩, ⟨.identifier, "a"⟩, ⟨.equal, "=="⟩, ⟨.number, "1"⟩,
        ⟨.rparen, ">"⟩, ⟨.lbrace, ""⟩, ⟨.rbrace, "end"⟩]
    let tree : Node := .statements
      [⟨.conditional, some "if", [.binary .equal "==" (.identifier "a") (.number "1"),
        .statements []]⟩]
    parse (read ++ [⟨.eof, "<EOF>"⟩, ⟨.plus, "+"⟩]) = .ok tree ∧
      tree.WellFormed ∧ tree.nesting ≤ maxNesting ∧ read.map Token.plain = tree.tokens := by
  intro read tree
  have accepted : parse (read ++ [⟨.eof, "<EOF>"⟩, ⟨.plus, "+"⟩]) = .ok tree := rfl
  exact ⟨accepted, tokens_of_accepted accepted⟩

/-- The source of a program is read as the program, however its punctuation is spelt. -/
theorem parse_of_tokens {node : Node} (formed : node.WellFormed) (fits : node.nesting ≤ maxNesting)
    {read : List Token} (written : read.map Token.plain = node.tokens) {suffix : List Token}
    (ends : ∀ token ∈ suffix.head?, token.kind = .eof) : parse (read ++ suffix) = .ok node := by
  apply parse_of_written formed fits written
  cases suffix with
  | nil => rfl
  | cons token rest => exact ends token rfl

theorem parse_of_tokens_chain :
    parse ([⟨.intWord, "int"⟩, ⟨.identifier, "a"⟩, ⟨.semicolon, ""⟩, ⟨.identifier, "a"⟩,
        ⟨.assign, "="⟩, ⟨.number, "3"⟩, ⟨.minus, "-"⟩, ⟨.number, "2"⟩, ⟨.plus, "+"⟩,
        ⟨.identifier, "a"⟩, ⟨.semicolon, "stop"⟩] ++ [⟨.eof, ""⟩, ⟨.ifWord, "if"⟩]) =
      .ok (.statements [⟨.declaration, some "int", [.identifier "a"]⟩,
        ⟨.assignment, some "=", [.identifier "a",
          .binary .plus "+" (.binary .minus "-" (.number "3") (.number "2"))
            (.identifier "a")]⟩]) := by
  apply parse_of_tokens
  · refine ⟨_, rfl, ?_⟩
    intro inner member
    rcases List.mem_cons.mp member with rfl | member
    · exact .declaration "int" "a"
    · obtain rfl := List.mem_singleton.mp member
      exact .assignment "=" "a"
        (.plus "+" (.minus "-" (.leaf (.number "3")) (.number "2")) (.identifier "a"))
  · exact Nat.zero_le maxNesting
  · rfl
  · intro token first
    cases first
    rfl

end StatementParser.Program
