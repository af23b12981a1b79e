import StatementParser.Node.Basic
import StatementParser.Rule.Expression

/-!
The tokens that a tree stands for, in the order of the source. Semicolons, parentheses and braces
leave no trace in a tree, so their texts are the usual ones here, and tokens are compared after
their texts have been made so.
-/
namespace StatementParser

def Kind.isPunctuation : Kind → Bool
  | .lparen | .rparen | .lbrace | .rbrace | .semicolon => true
  | _ => false

/-- The token with the usual text if it is punctuation, and as it is otherwise. -/
def Token.plain (token : Token) : Token :=
  if token.kind.isPunctuation then .symbol token.kind else token

@[simp] theorem Token.kind_symbol (kind : Kind) : (Token.symbol kind).kind = kind := rfl

@[simp] theorem Token.kind_plain (token : Token) : token.plain.kind = token.kind := by
  unfold Token.plain
  split
  · rfl
  · rfl

theorem Token.exists_text {token : Token} {kind : Kind} (same : token.kind = kind) :
    ∃ text, token = ⟨kind, text⟩ :=
  ⟨token.text, by rw [← same]⟩

theorem Token.plain_of_kind {token : Token} {kind : Kind} (same : token.kind = kind)
    (kept : kind.isPunctuation = false) : token.plain = ⟨kind, token.text⟩ := by
  subst same
  simp only [Token.plain, kept, Bool.false_eq_true, if_false]

theorem Token.eq_of_plain {token : Token} {kind : Kind} {text : String}
    (same : token.plain = ⟨kind, text⟩) (kept : kind.isPunctuation = false) :
    token = ⟨kind, text⟩ := by
  have kinds : token.kind = kind := by rw [← Token.kind_plain, same]
  rw [← same, Token.plain_of_kind kinds kept, ← kinds]

section

variable {read before spelt : List Token} {kind : Kind} {text : String}

theorem Token.exists_cons_of_plain (written : read.map Token.plain = ⟨kind, text⟩ :: spelt)
    (kept : kind.isPunctuation = false) :
    ∃ tail, read = ⟨kind, text⟩ :: tail ∧ tail.map Token.plain = spelt := by
  obtain ⟨token, tail, split, same, behind⟩ := List.map_eq_cons_iff.mp written
  rw [Token.eq_of_plain same kept] at split
  exact ⟨tail, split, behind⟩

theorem Token.exists_append_of_plain
    (written : read.map Token.plain = before ++ ⟨kind, text⟩ :: spelt)
    (kept : kind.isPunctuation = false) :
    ∃ first word, read = first ++ ⟨kind, text⟩ :: word ∧ first.map Token.plain = before ∧
      word.map Token.plain = spelt := by
  obtain ⟨first, tail, rfl, front, behind⟩ := List.map_eq_append_iff.mp written
  obtain ⟨word, rfl, last⟩ := Token.exists_cons_of_plain behind kept
  exact ⟨first, word, rfl, front, last⟩

theorem Token.exists_cons_of_symbol (written : read.map Token.plain = .symbol kind :: spelt) :
    ∃ token tail, read = token :: tail ∧ token.kind = kind ∧ tail.map Token.plain = spelt := by
  obtain ⟨token, tail, split, same, behind⟩ := List.map_eq_cons_iff.mp written
  refine ⟨token, tail, split, ?_, behind⟩
  rw [← Token.kind_plain, same, Token.kind_symbol]

end

namespace Node

/-- The tokens of a node around the tokens of its children. A node that has none of the shapes known
to the parser, and every list of statements, only puts its children in a row. -/
def layout : Kind → String → List (List Token) → List Token
  | .declaration, keyword, [name] => ⟨.intWord, keyword⟩ :: name ++ [.symbol .semicolon]
  | .assignment, operator, [name, value] =>
    name ++ ⟨.assign, operator⟩ :: value ++ [.symbol .semicolon]
  | .conditional, keyword, [test, body] =>
    ⟨.ifWord, keyword⟩ :: .symbol .lparen :: test ++ .symbol .rparen :: .symbol .lbrace :: body ++
      [.symbol .rbrace]
  | .plus, operator, [left, right] => left ++ ⟨.plus, operator⟩ :: right
  | .minus, operator, [left, right] => left ++ ⟨.minus, operator⟩ :: right
  | .equal, operator, [left, right] => left ++ ⟨.equal, operator⟩ :: right
  | .identifier, text, [] => [⟨.identifier, text⟩]
  | .number, text, [] => [⟨.number, text⟩]
  | _, _, parts => parts.flatten

mutual

def tokens : Node → List Token
  | ⟨kind, text, children⟩ => layout kind (text.getD "") (tokensAll children)

def tokensAll : List Node → List (List Token)
  | [] => []
  | node :: rest => tokens node :: tokensAll rest

end

@[simp] theorem tokens_identifier (text : String) :
    (identifier text).tokens = [⟨.identifier, text⟩] := rfl

@[simp] theorem tokens_number (text : String) : (number text).tokens = [⟨.number, text⟩] := rfl

@[simp] theorem tokens_declaration (keyword : String) (name : Node) :
    tokens ⟨.declaration, some keyword, [name]⟩ =
      ⟨.intWord, keyword⟩ :: name.tokens ++ [.symbol .semicolon] := rfl

@[simp] theorem tokens_assignment (operator : String) (name value : Node) :
    tokens ⟨.assignment, some operator, [name, value]⟩ =
      name.tokens ++ ⟨.assign, operator⟩ :: value.tokens ++ [.symbol .semicolon] := rfl

@[simp] theorem tokens_conditional (keyword : String) (test body : Node) :
    tokens ⟨.conditional, some keyword, [test, body]⟩ =
      ⟨.ifWord, keyword⟩ :: .symbol .lparen :: test.tokens ++
        .symbol .rparen :: .symbol .lbrace :: body.tokens ++ [.symbol .rbrace] := rfl

@[simp] theorem tokens_plus (operator : String) (left right : Node) :
    (binary .plus operator left right).tokens =
      left.tokens ++ ⟨.plus, operator⟩ :: right.tokens := rfl

@[simp] theorem tokens_minus (operator : String) (left right : Node) :
    (binary .minus operator left right).tokens =
      left.tokens ++ ⟨.minus, operator⟩ :: right.tokens := rfl

@[simp] theorem tokens_equal (operator : String) (left right : Node) :
    (binary .equal operator left right).tokens =
      left.tokens ++ ⟨.equal, operator⟩ :: right.tokens := rfl

@[simp] theorem tokens_statements (body : List Node) :
    (statements body).tokens = body.flatMap tokens := by
  change (tokensAll body).flatten = _
  induction body with
  | nil => rfl
  | cons node body ih =>
    simp only [tokensAll, List.flatten_cons, List.flatMap_cons]
    rw [ih]

theorem tokens_binary_of_operatorKind? {token : Token} {kind : Kind}
    (found : Rule.operatorKind? token.kind = some kind) (left right : Node) :
    (binary kind token.text left right).tokens = left.tokens ++ token :: right.tokens := by
  obtain ⟨sort, text⟩ := token
  cases sort <;> cases found <;> rfl

/-- The tokens are the source of the tree, with any texts for the punctuation. -/
def Written (node : Node) (read : List Token) : Prop :=
  read.map Token.plain = node.tokens

theorem written_declaration (keyword name text : String) :
    Written ⟨.declaration, some keyword, [identifier name]⟩
      [⟨.intWord, keyword⟩, ⟨.identifier, name⟩, ⟨.semicolon, text⟩] := rfl

theorem written_assignment (name operator text : String) {value : Node} {word : List Token}
    (spelt : Written value word) :
    Written ⟨.assignment, some operator, [identifier name, value]⟩
      (⟨.identifier, name⟩ :: ⟨.assign, operator⟩ :: (word ++ [⟨.semicolon, text⟩])) := by
  unfold Written at spelt ⊢
  rw [tokens_assignment, ← spelt, List.map_cons, List.map_cons, List.map_append]
  rfl

theorem written_conditional (keyword opening closing begun ended : String) {test body : Node}
    {tested words : List Token} (spelt : Written test tested) (held : Written body words) :
    Written ⟨.conditional, some keyword, [test, body]⟩
      (⟨.ifWord, keyword⟩ :: ⟨.lparen, opening⟩ :: (tested ++
        ⟨.rparen, closing⟩ :: ⟨.lbrace, begun⟩ :: (words ++ [⟨.rbrace, ended⟩]))) := by
  unfold Written at spelt held ⊢
  rw [tokens_conditional, ← spelt, ← held]
  simp only [List.map_cons, List.map_append, List.cons_append, List.append_assoc]
  rfl

theorem written_equal (operator : String) {left right : Node} {first second : List Token}
    (before : Written left first) (behind : Written right second) :
    Written (binary .equal operator left right) (first ++ ⟨.equal, operator⟩ :: second) := by
  unfold Written at before behind ⊢
  rw [tokens_equal, ← before, ← behind, List.map_append]
  rfl

theorem written_statements_cons {node : Node} {body : List Node} {word behind : List Token}
    (spelt : Written node word) (others : Written (statements body) behind) :
    Written (statements (node :: body)) (word ++ behind) := by
  unfold Written at spelt others ⊢
  rw [tokens_statements] at others ⊢
  rw [List.map_append, spelt, others, List.flatMap_cons]

end Node
end StatementParser
