import StatementParser.Proofs.Node.Texts

/-!
Tokens with other texts. A spelling says which text a token of each kind is to have in place of its
own. A tree is spelt anew along with its tokens: each node gets the text of the token that it comes
from.
-/
namespace StatementParser

abbrev Spelling := Kind → String → String

def Token.respell (spelling : Spelling) (token : Token) : Token :=
  ⟨token.kind, spelling token.kind token.text⟩

namespace Node

/-- Nodes without a token of their own keep their text, if they have any. -/
def respellText (spelling : Spelling) (kind : Node.Kind) (text : Option String) : Option String :=
  match kind.source? with
  | some source => text.map (spelling source)
  | none => text

mutual

def respell (spelling : Spelling) : Node → Node
  | ⟨kind, text, children⟩ => ⟨kind, respellText spelling kind text, respellAll spelling children⟩

def respellAll (spelling : Spelling) : List Node → List Node
  | [] => []
  | node :: rest => respell spelling node :: respellAll spelling rest

end

theorem respellAll_eq_map (spelling : Spelling) (nodes : List Node) :
    respellAll spelling nodes = nodes.map (respell spelling) := by
  induction nodes with
  | nil => rfl
  | cons node nodes ih => rw [respellAll, ih, List.map_cons]

theorem respell_statements (spelling : Spelling) (body : List Node) :
    (statements body).respell spelling = statements (body.map (respell spelling)) := by
  rw [← respellAll_eq_map]
  rfl

theorem respell_leaf_of_leafKind? (spelling : Spelling) {token : Token} {kind : Node.Kind}
    (found : Rule.leafKind? token.kind = some kind) :
    (leaf kind token.text).respell spelling = leaf kind (token.respell spelling).text := by
  obtain ⟨sort, text⟩ := token
  cases sort <;> cases found <;> rfl

theorem respell_binary_of_operatorKind? (spelling : Spelling) {token : Token} {kind : Node.Kind}
    (found : Rule.operatorKind? token.kind = some kind) (left right : Node) :
    (binary kind token.text left right).respell spelling =
      binary kind (token.respell spelling).text (left.respell spelling) (right.respell spelling) := by
  obtain ⟨sort, text⟩ := token
  cases sort <;> cases found <;> rfl

end Node
end StatementParser
