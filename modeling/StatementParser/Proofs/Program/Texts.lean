import StatementParser.Proofs.Listing.Usual
import StatementParser.Proofs.Node.Shown
import StatementParser.Proofs.Program.Listed

/-!
The texts that are shown for a listing. The nodes of a tree, and an error, show the texts of tokens
as they were given, also those of keywords, signs and the `eof`. So a sign is printed as itself, and
an empty text marks the end, just if the listing gives these kinds no other text than their own.
-/
namespace StatementParser

open Listing (Terminated Usual)

theorem Token.eq_of_terminated {tokens : List Token} (terminated : Terminated tokens)
    {token : Token} (member : token ∈ tokens) (stop : token.kind = .eof) :
    ∀ other ∈ tokens, other.kind = .eof → other = token := by
  obtain ⟨body, last, rfl, -, inner⟩ := terminated.last
  have only : ∀ other ∈ body ++ [last], other.kind = .eof → other = last := by
    intro other among ends
    rcases List.mem_append.mp among with early | late
    · exact absurd ends (inner other early)
    · exact List.mem_singleton.mp late
  intro other among ends
  rw [only other among ends, only token member stop]

namespace Program

section Tree

variable {text : String} {tokens : List Token} {node : Node}

theorem exists_token_of_node (accepted : parse tokens = .ok node) {inner : Node}
    (member : inner ∈ node.preorder) (other : inner.kind ≠ .statements) :
    ∃ token ∈ tokens, inner.kind.source? = some token.kind ∧ inner.text = some token.text := by
  obtain ⟨formed, -, written⟩ := wellFormed_of_block (block_of_parse_ok accepted)
  have regular := Node.regular_of_wellFormed formed inner member
  obtain ⟨shown, found⟩ := Option.ne_none_iff_exists'.mp fun bare => other (regular.bare.mp bare)
  obtain ⟨token, inside, same, given⟩ := Node.exists_token_of_written formed written member found
  refine ⟨token, (List.takeWhile_sublist _).subset inside, given, ?_⟩
  rw [found, same]

theorem exists_node_of_token (listed : Listing.read text = .ok tokens)
    (accepted : parse tokens = .ok node) {token : Token} (member : token ∈ tokens)
    {kind : Node.Kind} (given : kind.source? = some token.kind) :
    ∃ inner ∈ node.preorder, inner.kind = kind ∧ inner.text = some token.text := by
  obtain ⟨formed, -, written⟩ := wellFormed_of_block (block_of_parse_ok accepted)
  obtain ⟨last, split, stop⟩ :=
    Token.exists_beforeEof_of_terminated (Listing.terminated_of_read listed)
  have kept := Node.Kind.not_punctuation given
  have early : token ∈ Token.beforeEof tokens := by
    rw [split, List.mem_append, List.mem_singleton] at member
    refine member.resolve_right ?_
    rintro rfl
    rw [stop] at given
    cases kind <;> cases given
  have inside : token ∈ node.tokens := by
    have plain := List.mem_map_of_mem (f := Token.plain) early
    rwa [written, Token.plain_of_kind rfl kept] at plain
  obtain ⟨inner, below, shown, source⟩ := Node.exists_shown kept node inside
  obtain rfl := Node.Kind.eq_of_source?_eq source given
  refine ⟨inner, below, rfl, ?_⟩
  have filled : inner.text ≠ none := by
    intro bare
    rw [(Node.regular_of_wellFormed formed inner below).bare.mp bare] at source
    cases source
  obtain ⟨own, found⟩ := Option.ne_none_iff_exists'.mp filled
  rw [found, ← shown, Node.textOrEmpty, found, Option.getD_some]

/-- The nodes of a kind have the text that is the same for all of them just if the tokens they come
from are listed with no other. -/
theorem text_eq_iff_usual (listed : Listing.read text = .ok tokens)
    (accepted : parse tokens = .ok node) {kind : Node.Kind} {source : Kind} {lexeme : String}
    (given : kind.source? = some source) (fixed : kind.lexeme? = some lexeme) :
    (∀ inner ∈ node.preorder, inner.kind = kind → inner.text = some lexeme) ↔
      Usual source text := by
  have own : source.lexeme? = some lexeme := by rw [← Node.Kind.lexeme?_of_source? given, fixed]
  rw [Listing.usual_iff listed]
  constructor
  · rintro shows token member rfl
    obtain ⟨inner, below, same, shown⟩ := exists_node_of_token listed accepted member given
    rw [own, ← shows inner below same, shown]
  · rintro usual inner member rfl
    have other : inner.kind ≠ .statements := by
      intro bare
      rw [bare] at given
      cases given
    obtain ⟨token, among, comes, shown⟩ := exists_token_of_node accepted member other
    have same : token.kind = source := Option.some.inj (comes.symm.trans given)
    rw [shown, ← usual token among same, own]

end Tree

/-- Every node of the tree of a listing shows the text that the listing gives to a token of its
kind. This is the text common to the nodes of a kind just if the listing gives the kind no other,
and if it does so for no keyword and no sign then the first word of every phrase tells its kind. -/
theorem texts_of_listing {text : String} {tokens : List Token} {node : Node}
    (listed : Listing.read text = .ok tokens) (accepted : parse tokens = .ok node) :
    (∀ inner ∈ node.preorder,
        inner.kind = .statements ∧ inner.text = none ∨
          ∃ token ∈ tokens, inner.kind.source? = some token.kind ∧ inner.text = some token.text) ∧
      (∀ (kind : Node.Kind) (source : Kind) (lexeme : String), kind.source? = some source →
        kind.lexeme? = some lexeme →
          ((∀ inner ∈ node.preorder, inner.kind = kind → inner.text = some lexeme) ↔
            Usual source text)) ∧
      ∀ inner ∈ node.preorder, inner.kind.isTerm = false →
        inner.render = "(" ++ inner.head ++ Node.sexprAll inner.children ++ ")" ∧
          ((∀ kind : Node.Kind, kind.isTerm = false →
              ∀ source, kind.source? = some source → Usual source text) →
            ∀ kind : Node.Kind, kind.isTerm = false →
              (inner.head = kind.word ↔ inner.kind = kind)) := by
  obtain ⟨formed, -, -⟩ := wellFormed_of_block (block_of_parse_ok accepted)
  have regular := Node.regular_of_wellFormed formed
  refine ⟨?_, ?_, ?_⟩
  · intro inner member
    by_cases bare : inner.kind = .statements
    · exact .inl ⟨bare, (regular inner member).bare.mpr bare⟩
    · exact .inr (exists_token_of_node accepted member bare)
  · intro kind source lexeme given fixed
    exact text_eq_iff_usual listed accepted given fixed
  · intro inner member composed
    have compound : ¬inner.isAtom = true := by
      rw [(regular inner member).atom, composed]
      exact Bool.false_ne_true
    refine ⟨Node.render_of_compound compound, ?_⟩
    intro usual
    have word : inner.head = inner.kind.word := by
      by_cases bare : inner.kind = .statements
      · rw [Node.head, (regular inner member).bare.mpr bare, bare]
        rfl
      · obtain ⟨source, lexeme, given, fixed⟩ := Node.Kind.exists_source composed bare
        have shown := (text_eq_iff_usual listed accepted given fixed).mpr
          (usual inner.kind composed source given) inner member rfl
        rw [Node.head, shown, Node.Kind.word, fixed]
    intro kind alsoComposed
    rw [word]
    exact ⟨Node.Kind.eq_of_word_eq composed alsoComposed, congrArg Node.Kind.word⟩

theorem texts_of_listing_usual :
    let tokens : List Token :=
      [⟨.identifier, "if"⟩, ⟨.assign, "="⟩, ⟨.identifier, "statements"⟩, ⟨.plus, "+"⟩, ⟨.number, "-"⟩,
        ⟨.semicolon, "end"⟩, Token.eof]
    let node : Node := .statements [⟨.assignment, some "=",
      [.identifier "if", .binary .plus "+" (.identifier "statements") (.number "-")]⟩]
    Listing.read "identifier if\nassign\nidentifier statements\nplus +\nnumber -\nsemicolon end" =
        .ok tokens ∧
      parse tokens = .ok node ∧
      (∀ inner ∈ node.preorder, inner.kind = .plus → inner.text = some "+") ∧
      ∀ inner ∈ node.preorder, inner.kind.isTerm = false → ∀ kind : Node.Kind, kind.isTerm = false →
        (inner.head = kind.word ↔ inner.kind = kind) := by
  intro tokens node
  have listed : Listing.read
      "identifier if\nassign\nidentifier statements\nplus +\nnumber -\nsemicolon end" =
    .ok tokens := rfl
  have accepted : parse tokens = .ok node := rfl
  have usual : ∀ kind : Node.Kind, kind.isTerm = false → ∀ source, kind.source? = some source →
      Usual source
        "identifier if\nassign\nidentifier statements\nplus +\nnumber -\nsemicolon end" := by
    intro kind composed source given
    rw [Listing.usual_iff listed]
    cases kind with
    | identifier => cases composed
    | number => cases composed
    | _ => cases given <;> decide
  obtain ⟨-, texts, heads⟩ := texts_of_listing listed accepted
  refine ⟨listed, accepted, ?_, ?_⟩
  · exact (texts .plus .plus "+" rfl rfl).mpr (usual .plus rfl .plus rfl)
  · exact fun inner member composed => (heads inner member composed).2 usual

/-- A plus that is given the text of a minus is printed as one, though it is a plus. -/
theorem texts_of_listing_other_sign :
    let tokens : List Token :=
      [⟨.identifier, "a"⟩, ⟨.assign, "="⟩, ⟨.number, "3"⟩, ⟨.plus, "-"⟩, ⟨.number, "2"⟩,
        ⟨.semicolon, ";"⟩, Token.eof]
    let sum : Node := .binary .plus "-" (.number "3") (.number "2")
    let node : Node := .statements [⟨.assignment, some "=", [.identifier "a", sum]⟩]
    Listing.read "identifier a\nassign\nnumber 3\nplus -\nnumber 2\nsemicolon" = .ok tokens ∧
      parse tokens = .ok node ∧ sum ∈ node.preorder ∧
      sum.text ≠ Node.Kind.lexeme? .plus ∧ sum.head = Node.Kind.word .minus ∧
      node.render = "(statements (= a (- 3 2)))" := by
  intro tokens sum node
  have accepted : parse tokens = .ok node := rfl
  refine ⟨rfl, accepted, ?_, by decide, rfl, ?_⟩
  · exact Node.mem_preorder_of_child List.mem_cons_self
      (Node.mem_preorder_of_child (List.mem_cons_of_mem _ List.mem_cons_self) sum.mem_preorder)
  · rw [Node.render_of_compound (by decide)]
    rfl

theorem exists_token_of_error {text : String} {tokens : List Token} {error : SyntaxError}
    (listed : Listing.read text = .ok tokens) (rejected : parse tokens = .error error) :
    ∃ read token behind, tokens = read ++ token :: behind ∧ error.position = read.length ∧
      error.found = token.text := by
  obtain ⟨read, rest, refused⟩ := refused_of_parse_error rejected
  cases rest with
  | nil =>
    obtain ⟨body, last, split, stop, -⟩ := (Listing.terminated_of_read listed).last
    have whole : read = body ++ [last] := by rw [← split, refused.split, List.append_nil]
    have among : last ∈ read := by rw [whole]; exact List.mem_append_right _ List.mem_cons_self
    exact absurd stop (refused.inner last among)
  | cons token behind => exact ⟨read, token, behind, refused.split, refused.position, refused.found⟩

/-- An error without a text stands at the `eof`, and one at the `eof` is without a text just if the
listing gives the `eof` none. -/
theorem found_of_listing {text : String} {tokens : List Token} {error : SyntaxError}
    (listed : Listing.read text = .ok tokens) (rejected : parse tokens = .error error) :
    ∃ inside : error.position < tokens.length,
      (error.found = "" ↔ tokens[error.position].kind = .eof ∧ Usual .eof text) := by
  have terminated := Listing.terminated_of_read listed
  obtain ⟨read, token, behind, split, position, found⟩ := exists_token_of_error listed rejected
  have inside : error.position < tokens.length := by
    rw [split, position, List.length_append, List.length_cons]
    omega
  have here : tokens[error.position] = token := List.getElem_of_append split position.symm
  have member : token ∈ tokens := by
    rw [← here]
    exact List.getElem_mem inside
  refine ⟨inside, ?_⟩
  rw [here, found, Listing.usual_iff listed]
  constructor
  · intro empty
    have stop : token.kind = .eof :=
      Decidable.byContradiction fun other => (terminated.listable token member).filled other empty
    refine ⟨stop, fun other among ends => ?_⟩
    rw [Token.eq_of_terminated terminated member stop other among ends, empty]
    rfl
  · rintro ⟨stop, usual⟩
    exact (Option.some.inj (usual token member stop)).symm

theorem found_of_listing_supplied :
    let tokens : List Token := [⟨.intWord, "int"⟩, ⟨.identifier, "eof"⟩, Token.eof]
    let error : SyntaxError := ⟨.semicolonAfterDeclaration, "", 2⟩
    Listing.read "int\n# eof end\nidentifier eof" = .ok tokens ∧ parse tokens = .error error ∧
      ∃ inside : 2 < tokens.length, tokens[2].kind = .eof ∧
        Usual .eof "int\n# eof end\nidentifier eof" := by
  intro tokens error
  have listed : Listing.read "int\n# eof end\nidentifier eof" = .ok tokens := rfl
  have rejected : parse tokens = .error error := rfl
  obtain ⟨inside, empty⟩ := found_of_listing listed rejected
  exact ⟨listed, rejected, inside, empty.mp rfl⟩

/-- An `eof` that is given a text is shown with it. -/
theorem found_of_listing_shown_end :
    let tokens : List Token := [⟨.intWord, "int"⟩, ⟨.eof, "end"⟩]
    let error : SyntaxError := ⟨.identifierAfterInt, "end", 1⟩
    Listing.read "int\neof end" = .ok tokens ∧ parse tokens = .error error ∧
      ∃ inside : error.position < tokens.length,
        ¬(error.found = "" ↔ tokens[error.position].kind = .eof) := by
  intro tokens error
  exact ⟨rfl, rfl, by decide, by decide⟩

end Program
end StatementParser
