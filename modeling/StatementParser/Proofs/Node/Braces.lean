import StatementParser.Proofs.Node.WellFormed

/-!
The source of a tree closes every block that it opens, and no other. So the braces among the tokens
read so far tell how many blocks are open.
-/
namespace StatementParser

def Kind.opens : Kind → Int
  | .lbrace => 1
  | .rbrace => -1
  | _ => 0

namespace Token

/-- How many more blocks the tokens open than they close. -/
def opened : List Token → Int
  | [] => 0
  | token :: rest => token.kind.opens + opened rest

@[simp] theorem opened_nil : opened [] = 0 := rfl

@[simp] theorem opened_cons (token : Token) (rest : List Token) :
    opened (token :: rest) = token.kind.opens + opened rest := rfl

@[simp] theorem opened_append (first second : List Token) :
    opened (first ++ second) = opened first + opened second := by
  induction first with
  | nil => simp
  | cons token first ih =>
    simp only [List.cons_append, opened_cons, ih]
    omega

theorem opened_map_plain (tokens : List Token) : opened (tokens.map plain) = opened tokens := by
  induction tokens with
  | nil => rfl
  | cons token tokens ih => simp only [List.map_cons, opened_cons, kind_plain, ih]

end Token

namespace Node

open Token (opened)

theorem opened_of_written {node : Node} {read : List Token} (written : Written node read) :
    opened read = opened node.tokens := by
  rw [← Token.opened_map_plain read, written]

theorem Leaf.opened {node : Node} (single : Leaf node) : opened node.tokens = 0 := by
  cases single with
  | identifier text => rfl
  | number text => rfl

theorem Arithmetic.opened {node : Node} (arithmetic : Arithmetic node) :
    opened node.tokens = 0 := by
  induction arithmetic with
  | leaf single => exact single.opened
  | plus operator before last ih => simp [ih, last.opened, Kind.opens]
  | minus operator before last ih => simp [ih, last.opened, Kind.opens]

theorem Condition.opened {node : Node} (condition : Condition node) : opened node.tokens = 0 := by
  cases condition with
  | value arithmetic => exact arithmetic.opened
  | equal operator before behind => simp [before.opened, behind.opened, Kind.opens]

theorem opened_statements {body : List Node} (each : ∀ node ∈ body, opened node.tokens = 0) :
    opened (statements body).tokens = 0 := by
  induction body with
  | nil => rfl
  | cons node body ih =>
    rw [List.forall_mem_cons] at each
    have rest := ih each.2
    rw [tokens_statements] at rest ⊢
    rw [List.flatMap_cons, Token.opened_append, each.1, rest]
    rfl

theorem Statement.opened {node : Node} (statement : Statement node) : opened node.tokens = 0 := by
  induction statement with
  | declaration keyword name => rfl
  | assignment operator name arithmetic => simp [arithmetic.opened, Kind.opens]
  | conditional keyword condition all ih =>
    have inner := opened_statements ih
    simp only [tokens_conditional, Token.opened_append, Token.opened_cons, Token.opened_nil, inner,
      condition.opened, Token.kind_symbol, Kind.opens]
    omega

end Node
end StatementParser
