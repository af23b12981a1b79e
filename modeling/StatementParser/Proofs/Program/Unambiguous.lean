import StatementParser.Proofs.Node.Legible
import StatementParser.Proofs.Program.Outcome

/-!
The tree that is printed for a program tells the program. When the tokens have the texts of their
kinds, and identifiers and numbers are single words, every node of the tree is written in a way that
no other node is, except that numbers and identifiers look alike.
-/
namespace StatementParser

open Node (Leaf Arithmetic Condition Statement Written WellFormed Legible Unmarked)

namespace Token

/-- The token has the text of its kind, or a single word for its text where its kind has none. -/
def Legible (token : Token) : Prop :=
  match token.kind.lexeme? with
  | some lexeme => token.text = lexeme
  | none => Unmarked token.text

theorem legible_symbol {kind : Kind} (punctuation : kind.isPunctuation = true) :
    (symbol kind).Legible := by
  cases kind with
  | lparen | rparen | lbrace | rbrace | semicolon => rfl
  | _ => cases punctuation

theorem legible_plain {token : Token} (legible : token.Legible) : token.plain.Legible := by
  by_cases punctuation : token.kind.isPunctuation = true
  · rw [plain, if_pos punctuation]
    exact legible_symbol punctuation
  · rw [plain, if_neg punctuation]
    exact legible

end Token

namespace Node

theorem legible_of_leaf {node : Node} (single : Leaf node)
    (tokens : ∀ token ∈ node.tokens, token.Legible) : Legible node := by
  cases single with
  | identifier text => exact .term rfl (tokens ⟨.identifier, text⟩ (by simp))
  | number text => exact .term rfl (tokens ⟨.number, text⟩ (by simp))

theorem legible_pair {kind : Kind} {text : String} {left right : Node}
    (composed : kind.isTerm = false) (lexeme : some text = kind.lexeme?) (before : Legible left)
    (behind : Legible right) : Legible ⟨kind, some text, [left, right]⟩ := by
  rw [lexeme]
  apply Legible.phrase composed (by simp)
  simp only [List.forall_mem_cons]
  exact ⟨before, behind, by simp⟩

theorem legible_of_arithmetic {node : Node} (arithmetic : Arithmetic node)
    (tokens : ∀ token ∈ node.tokens, token.Legible) : Legible node := by
  induction arithmetic with
  | leaf single => exact legible_of_leaf single tokens
  | plus operator before last ih =>
    simp only [tokens_plus, List.forall_mem_append, List.forall_mem_cons] at tokens
    obtain ⟨first, sign, second⟩ := tokens
    exact legible_pair rfl (congrArg some sign) (ih first) (legible_of_leaf last second)
  | minus operator before last ih =>
    simp only [tokens_minus, List.forall_mem_append, List.forall_mem_cons] at tokens
    obtain ⟨first, sign, second⟩ := tokens
    exact legible_pair rfl (congrArg some sign) (ih first) (legible_of_leaf last second)

theorem legible_of_condition {node : Node} (condition : Condition node)
    (tokens : ∀ token ∈ node.tokens, token.Legible) : Legible node := by
  cases condition with
  | value arithmetic => exact legible_of_arithmetic arithmetic tokens
  | equal operator before behind =>
    simp only [tokens_equal, List.forall_mem_append, List.forall_mem_cons] at tokens
    obtain ⟨first, sign, second⟩ := tokens
    exact legible_pair rfl (congrArg some sign) (legible_of_arithmetic before first)
      (legible_of_arithmetic behind second)

theorem legible_statements {body : List Node} (all : ∀ node ∈ body, Legible node) :
    Legible (statements body) :=
  .phrase rfl (by simp) all

theorem legible_of_statement {node : Node} (statement : Statement node)
    (tokens : ∀ token ∈ node.tokens, token.Legible) : Legible node := by
  induction statement with
  | declaration keyword name =>
    simp only [tokens_declaration, List.cons_append, List.forall_mem_append,
      List.forall_mem_cons] at tokens
    obtain ⟨word, named, -⟩ := tokens
    have lexeme : some keyword = Kind.lexeme? .declaration := congrArg some word
    rw [lexeme]
    apply Legible.phrase rfl (by simp)
    simp only [List.forall_mem_singleton]
    exact legible_of_leaf (.identifier name) named
  | assignment operator name arithmetic =>
    simp only [tokens_assignment, List.forall_mem_append, List.forall_mem_cons] at tokens
    obtain ⟨⟨named, sign, value⟩, -⟩ := tokens
    exact legible_pair rfl (congrArg some sign) (legible_of_leaf (.identifier name) named)
      (legible_of_arithmetic arithmetic value)
  | conditional keyword condition all ih =>
    simp only [tokens_conditional, List.cons_append, List.forall_mem_append,
      List.forall_mem_cons] at tokens
    obtain ⟨word, -, ⟨tested, -, -, held⟩, -⟩ := tokens
    apply legible_pair rfl (congrArg some word) (legible_of_condition condition tested)
    apply legible_statements
    intro inner member
    apply ih inner member
    intro token inside
    rw [tokens_statements] at held
    exact held token (List.mem_flatMap.mpr ⟨inner, member, inside⟩)

end Node

namespace Program

theorem legible_of_parse_ok {tokens : List Token} {node : Node}
    (legible : ∀ token ∈ tokens, token.Legible) (accepted : parse tokens = .ok node) :
    Legible node := by
  obtain ⟨⟨body, rfl, all⟩, -, written⟩ := wellFormed_of_block (block_of_parse_ok accepted)
  rw [Written, Node.tokens_statements] at written
  apply Node.legible_statements
  intro inner member
  apply Node.legible_of_statement (all inner member)
  intro token inside
  have read : token ∈ (Token.beforeEof tokens).map Token.plain := by
    rw [written]
    exact List.mem_flatMap.mpr ⟨inner, member, inside⟩
  obtain ⟨source, found, rfl⟩ := List.mem_map.mp read
  exact Token.legible_plain (legible source ((List.takeWhile_sublist _).subset found))

theorem not_isAtom_of_parse_ok {tokens : List Token} {node : Node}
    (accepted : parse tokens = .ok node) : ¬node.isAtom = true := by
  obtain ⟨body, rfl, -⟩ := block_of_parse_ok accepted
  exact Node.not_isAtom_phrase (by simp) none

/-- Programs that are printed alike have the same tree but for the kinds of the leaves. -/
theorem blurred_eq_of_render_eq {first second : List Token}
    (legible : ∀ token ∈ first, token.Legible) (alsoLegible : ∀ token ∈ second, token.Legible)
    {left right : Node} (accepted : parse first = .ok left) (alsoAccepted : parse second = .ok right)
    (same : left.render = right.render) : left.blurred = right.blurred := by
  have compound := not_isAtom_of_parse_ok accepted
  have alsoCompound := not_isAtom_of_parse_ok alsoAccepted
  have forms : left.sexpr = right.sexpr := by
    rw [Node.sexpr_of_compound compound, ← Node.render_of_compound compound, same,
      Node.render_of_compound alsoCompound, Node.sexpr_of_compound alsoCompound]
  have recognised := Node.recognised_of_legible (legible_of_parse_ok legible accepted)
  obtain ⟨trees, -⟩ := recognised right [] [] (legible_of_parse_ok alsoLegible alsoAccepted)
    (by simp [Node.Closed]) (by simp [Node.Closed]) (by rw [forms])
  exact trees

theorem blurred_eq_of_render_eq_odd_words :
    let first : List Token :=
      [⟨.identifier, "statements"⟩, ⟨.assign, "="⟩, ⟨.number, "1"⟩, ⟨.plus, "+"⟩,
        ⟨.identifier, ""⟩, ⟨.semicolon, ";"⟩, ⟨.eof, ""⟩]
    let second : List Token :=
      [⟨.identifier, "statements"⟩, ⟨.assign, "="⟩, ⟨.identifier, "1"⟩, ⟨.plus, "+"⟩,
        ⟨.number, ""⟩, ⟨.semicolon, ";"⟩]
    let left : Node := .statements [⟨.assignment, some "=", [.identifier "statements",
      .binary .plus "+" (.number "1") (.identifier "")]⟩]
    let right : Node := .statements [⟨.assignment, some "=", [.identifier "statements",
      .binary .plus "+" (.identifier "1") (.number "")]⟩]
    (∀ token ∈ first, token.Legible) ∧ (∀ token ∈ second, token.Legible) ∧
      parse first = .ok left ∧ parse second = .ok right ∧ left.render = right.render ∧
      left ≠ right ∧ left.blurred = right.blurred := by
  intro first second left right
  have word : Unmarked "statements" := Node.unmarked_of_all rfl
  have digit : Unmarked "1" := Node.unmarked_of_all rfl
  have empty : Unmarked "" := Node.unmarked_of_all rfl
  have legible : ∀ token ∈ first, token.Legible := by
    simp only [first, List.forall_mem_cons]
    exact ⟨word, rfl, digit, rfl, empty, rfl, rfl, by simp⟩
  have alsoLegible : ∀ token ∈ second, token.Legible := by
    simp only [second, List.forall_mem_cons]
    exact ⟨word, rfl, digit, rfl, empty, rfl, by simp⟩
  have accepted : parse first = .ok left := rfl
  have alsoAccepted : parse second = .ok right := rfl
  have same : left.render = right.render := by
    rw [Node.render_of_compound (not_isAtom_of_parse_ok accepted),
      Node.render_of_compound (not_isAtom_of_parse_ok alsoAccepted)]
    rfl
  exact ⟨legible, alsoLegible, accepted, alsoAccepted, same, by decide,
    blurred_eq_of_render_eq legible alsoLegible accepted alsoAccepted same⟩

end Program
end StatementParser
