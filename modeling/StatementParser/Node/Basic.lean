/-!
A program is a tree of nodes. Every node has a kind, a text that statement lists go without, and any
number of children; nothing here ties the kind to the number of children.
-/
namespace StatementParser

inductive Node.Kind where
  | statements
  | declaration
  | assignment
  | conditional
  | plus
  | minus
  | equal
  | identifier
  | number
  deriving DecidableEq, Repr, Inhabited

structure Node where
  kind : Node.Kind
  text : Option String
  children : List Node
  deriving Repr, Inhabited

namespace Node

def leaf (kind : Kind) (text : String) : Node :=
  ⟨kind, some text, []⟩

def identifier (text : String) : Node :=
  leaf .identifier text

def number (text : String) : Node :=
  leaf .number text

def statements (children : List Node) : Node :=
  ⟨.statements, none, children⟩

def binary (kind : Kind) (operator : String) (left right : Node) : Node :=
  ⟨kind, some operator, [left, right]⟩

def isLeaf (node : Node) : Bool :=
  node.children.isEmpty

def textOrEmpty (node : Node) : String :=
  node.text.getD ""

mutual

def same : Node → Node → Bool
  | ⟨kind, text, children⟩, ⟨otherKind, otherText, otherChildren⟩ =>
    kind == otherKind && text == otherText && sameAll children otherChildren

def sameAll : List Node → List Node → Bool
  | [], [] => true
  | node :: rest, other :: others => same node other && sameAll rest others
  | _, _ => false

end

mutual

theorem same_iff : ∀ left right : Node, same left right = true ↔ left = right
  | ⟨kind, text, children⟩, ⟨otherKind, otherText, otherChildren⟩ => by
    simp [same, sameAll_iff children otherChildren, and_assoc]

theorem sameAll_iff : ∀ left right : List Node, sameAll left right = true ↔ left = right
  | [], [] => by simp [sameAll]
  | [], _ :: _ => by simp [sameAll]
  | _ :: _, [] => by simp [sameAll]
  | node :: rest, other :: others => by
    simp [sameAll, same_iff node other, sameAll_iff rest others]

end

instance : DecidableEq Node := fun left right =>
  decidable_of_iff (same left right = true) (same_iff left right)

end Node
end StatementParser
