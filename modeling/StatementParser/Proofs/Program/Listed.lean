import StatementParser.Proofs.Listing.RoundTrip
import StatementParser.Proofs.Program.Grammar
import StatementParser.Proofs.Program.Location

/-!
Programs given by listings. A listing holds one `eof`, at its end, and the parser reads up to the
first. So nothing of a listing is left out: a program that is accepted has all its tokens in the
tree, and one that is refused is refused at one of its tokens, be it the `eof`.
-/
namespace StatementParser

open Listing (Terminated)

theorem Token.exists_beforeEof_of_terminated {tokens : List Token} (terminated : Terminated tokens) :
    ∃ last, tokens = beforeEof tokens ++ [last] ∧ last.kind = .eof := by
  obtain ⟨body, last, split, stop, inner⟩ := terminated.last
  have ends : (first [last]).kind = .eof := stop
  have front : beforeEof tokens = body := by
    rw [split, beforeEof_append inner, beforeEof_of_first ends, List.append_nil]
  exact ⟨last, by rw [front, split], stop⟩

namespace Program

/-- The tokens of a listing are those of its tree and an `eof`; or the error stands at one of them
and shows its text. -/
theorem parse_listing {text : String} {tokens : List Token}
    (listed : Listing.read text = .ok tokens) :
    (∀ error, parse tokens = .error error →
        ∃ inside : error.position < tokens.length, error.found = tokens[error.position].text) ∧
      ∀ node, parse tokens = .ok node →
        tokens.map Token.kind = node.tokens.map Token.kind ++ [.eof] := by
  obtain ⟨last, split, stop⟩ :=
    Token.exists_beforeEof_of_terminated (Listing.terminated_of_read listed)
  constructor
  · intro error rejected
    obtain ⟨read, rest, refused⟩ := refused_of_parse_error rejected
    have inside : error.position < tokens.length := by
      have before := refused.position_le
      have lengths := congrArg List.length split
      simp only [List.length_append, List.length_singleton] at lengths
      omega
    refine ⟨inside, ?_⟩
    have found := refused.found_at
    rw [List.getElem?_eq_getElem inside] at found
    exact found
  · intro node accepted
    obtain ⟨-, -, written⟩ := wellFormed_of_block (block_of_parse_ok accepted)
    calc
      tokens.map Token.kind = (Token.beforeEof tokens ++ [last]).map Token.kind := by rw [← split]
      _ = (Token.beforeEof tokens).map Token.kind ++ [last.kind] := List.map_append
      _ = node.tokens.map Token.kind ++ [.eof] := by
        rw [kinds_of_written written, stop]
        rfl

theorem parse_listing_short :
    let short : List Token := [⟨.intWord, "int"⟩, ⟨.identifier, "a b"⟩, ⟨.eof, "end"⟩]
    let whole : List Token :=
      [⟨.intWord, "int"⟩, ⟨.identifier, "a"⟩, ⟨.semicolon, "."⟩, ⟨.eof, ""⟩]
    let tree : Node := .statements [⟨.declaration, some "int", [.identifier "a"]⟩]
    Listing.read "int\nidentifier a b\neof end" = .ok short ∧
      parse short = .error ⟨.semicolonAfterDeclaration, "end", 2⟩ ∧
      (∃ inside : 2 < short.length, "end" = short[2].text) ∧
      Listing.read "int\r\n# a\nidentifier a\nsemicolon .\n" = .ok whole ∧
      parse whole = .ok tree ∧
      whole.map Token.kind = tree.tokens.map Token.kind ++ [.eof] := by
  intro short whole tree
  have listed : Listing.read "int\nidentifier a b\neof end" = .ok short := rfl
  have alsoListed : Listing.read "int\r\n# a\nidentifier a\nsemicolon .\n" = .ok whole := rfl
  have rejected : parse short = .error ⟨.semicolonAfterDeclaration, "end", 2⟩ := rfl
  have accepted : parse whole = .ok tree := rfl
  have shown := (parse_listing listed).1 _ rejected
  have kinds := (parse_listing alsoListed).2 _ accepted
  exact ⟨listed, rejected, shown, alsoListed, accepted, kinds⟩

end Program
end StatementParser
