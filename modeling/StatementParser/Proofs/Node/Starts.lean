import StatementParser.Proofs.Node.Places

/-!
Where statements begin. In the source of a program a statement begins at the first token and behind
every semicolon and brace, unless a block ends there; no look at the rest is needed. In its tree
statements have their places like all nodes. Both ways to find the beginnings of statements agree.
-/
namespace StatementParser

def Kind.separates : Kind → Bool
  | .semicolon | .lbrace | .rbrace => true
  | _ => false

namespace Token

/-- Whether a statement can begin behind the tokens, given whether one can in front of them. -/
def freeBehind : Bool → List Token → Bool
  | free, [] => free
  | _, token :: rest => freeBehind token.kind.separates rest

/-- The index and the kind of every token at which a statement begins. It is given whether one can
begin at the first token, and the index of that. -/
def starts : Bool → Nat → List Token → List (Nat × Kind)
  | _, _, [] => []
  | free, index, token :: rest =>
    (if free ∧ token.kind ≠ .rbrace then [(index, token.kind)] else []) ++
      starts token.kind.separates (index + 1) rest

theorem freeBehind_append (free : Bool) (read more : List Token) :
    freeBehind free (read ++ more) = freeBehind (freeBehind free read) more := by
  induction read generalizing free with
  | nil => rfl
  | cons token read ih => exact ih token.kind.separates

theorem starts_append (free : Bool) (index : Nat) (read more : List Token) :
    starts free index (read ++ more) =
      starts free index read ++ starts (freeBehind free read) (index + read.length) more := by
  induction read generalizing free index with
  | nil => rfl
  | cons token read ih =>
    have place : index + (token :: read).length = index + 1 + read.length := by
      rw [List.length_cons]
      omega
    rw [List.cons_append, starts, starts, ih, place, freeBehind, List.append_assoc]

@[simp] theorem starts_map_plain (free : Bool) (index : Nat) (read : List Token) :
    starts free index (read.map plain) = starts free index read := by
  induction read generalizing free index with
  | nil => rfl
  | cons token read ih => simp only [List.map_cons, starts, kind_plain, ih]

theorem getElem?_of_mem_starts {free : Bool} {index : Nat} {read : List Token}
    {start : Nat × Kind} (member : start ∈ starts free index read) :
    ∃ offset token, start.1 = index + offset ∧ read[offset]? = some token ∧
      token.kind = start.2 := by
  induction read generalizing free index with
  | nil => cases member
  | cons token read ih =>
    rw [starts, List.mem_append] at member
    rcases member with first | behind
    · split at first
      · obtain rfl := List.mem_singleton.mp first
        exact ⟨0, token, rfl, rfl, rfl⟩
      · cases first
    · obtain ⟨offset, other, place, found, same⟩ := ih behind
      exact ⟨offset + 1, other, by omega, found, same⟩

theorem le_of_mem_starts {free : Bool} {index : Nat} {read : List Token} {start : Nat × Kind}
    (member : start ∈ starts free index read) :
    index ≤ start.1 ∧ start.1 < index + read.length := by
  obtain ⟨offset, token, place, found, -⟩ := getElem?_of_mem_starts member
  obtain ⟨inside, -⟩ := List.getElem?_eq_some_iff.mp found
  omega

theorem pairwise_starts (free : Bool) (index : Nat) (read : List Token) :
    (starts free index read).Pairwise fun earlier later => earlier.1 < later.1 := by
  induction read generalizing free index with
  | nil => exact .nil
  | cons token read ih =>
    rw [starts, List.pairwise_append]
    refine ⟨?_, ih _ _, ?_⟩
    · split
      · exact List.pairwise_singleton _ _
      · exact .nil
    · intro first member later behind
      have after := (le_of_mem_starts behind).1
      split at member
      · obtain rfl := List.mem_singleton.mp member
        exact after
      · cases member

theorem filter_starts (free : Bool) (read more : List Token) :
    (starts free 0 (read ++ more)).filter (fun start => start.1 < read.length) =
      starts free 0 read := by
  rw [starts_append, List.filter_append, List.filter_eq_self.mpr, List.filter_eq_nil_iff.mpr,
    List.append_nil]
  · intro start member
    have after := (le_of_mem_starts member).1
    simpa using after
  · intro start member
    have before := (le_of_mem_starts member).2
    simpa using before

end Token

namespace Node

open Token (starts freeBehind)

def Kind.opening? : Kind → Option StatementParser.Kind
  | .declaration => some .intWord
  | .assignment => some .identifier
  | .conditional => some .ifWord
  | _ => none

def start? (place : Nat × Node) : Option (Nat × StatementParser.Kind) :=
  place.2.kind.opening?.map fun kind => (place.1, kind)

/-- No statement begins in the node nor behind it. -/
structure Quiet (node : Node) : Prop where
  tokens : ∀ index, starts false index node.tokens = []
  behind : freeBehind false node.tokens = false
  places : ∀ index, (placed index node).filterMap start? = []

/-- In the tokens of the node statements begin where its statements are placed, and another one can
begin behind it. -/
structure Begins (node : Node) : Prop where
  tokens : ∀ index, starts true index node.tokens = (placed index node).filterMap start?
  behind : freeBehind true node.tokens = true

theorem quiet_of_leaf {node : Node} (single : Leaf node) : Quiet node := by
  cases single with
  | identifier text => exact ⟨fun _ => rfl, rfl, fun _ => rfl⟩
  | number text => exact ⟨fun _ => rfl, rfl, fun _ => rfl⟩

theorem quiet_binary {kind : Kind} {sign : Token} {left right : Node} {operator : String}
    (spelt : (binary kind operator left right).tokens = left.tokens ++ sign :: right.tokens)
    (joins : sign.kind.separates = false) (other : kind.opening? = none) (before : Quiet left)
    (behind : Quiet right) : Quiet (binary kind operator left right) where
  tokens := by
    intro index
    rw [spelt, Token.starts_append, before.tokens, before.behind, starts, joins, behind.tokens]
    simp
  behind := by
    rw [spelt, Token.freeBehind_append, freeBehind, joins, behind.behind]
  places := by
    intro index
    simp [binary, placed, placedAll, start?, other, before.places, behind.places]

theorem quiet_of_arithmetic {node : Node} (arithmetic : Arithmetic node) : Quiet node := by
  induction arithmetic with
  | leaf single => exact quiet_of_leaf single
  | plus operator before last ih => exact quiet_binary rfl rfl rfl ih (quiet_of_leaf last)
  | minus operator before last ih => exact quiet_binary rfl rfl rfl ih (quiet_of_leaf last)

theorem quiet_of_condition {node : Node} (condition : Condition node) : Quiet node := by
  cases condition with
  | value arithmetic => exact quiet_of_arithmetic arithmetic
  | equal operator before behind =>
    exact quiet_binary rfl rfl rfl (quiet_of_arithmetic before) (quiet_of_arithmetic behind)

theorem starts_flatMap {body : List Node} (each : ∀ node ∈ body, Begins node) (count index : Nat) :
    starts true index (body.flatMap Node.tokens) =
      (placedAll .statements count index body).filterMap start? := by
  induction body generalizing count index with
  | nil => rfl
  | cons node body ih =>
    have first := each node List.mem_cons_self
    have others := ih fun inner member => each inner (List.mem_cons_of_mem node member)
    rw [List.flatMap_cons, Token.starts_append, first.tokens, first.behind, others (count + 1),
      placedAll, List.filterMap_append]
    rfl

theorem freeBehind_flatMap {body : List Node} (each : ∀ node ∈ body, Begins node) :
    freeBehind true (body.flatMap Node.tokens) = true := by
  induction body with
  | nil => rfl
  | cons node body ih =>
    have first := each node List.mem_cons_self
    rw [List.flatMap_cons, Token.freeBehind_append, first.behind]
    exact ih fun inner member => each inner (List.mem_cons_of_mem node member)

theorem begins_statements {body : List Node} (each : ∀ node ∈ body, Begins node) :
    Begins (statements body) where
  tokens := by
    intro index
    rw [tokens_statements, starts_flatMap each 0]
    rfl
  behind := by
    rw [tokens_statements]
    exact freeBehind_flatMap each

theorem begins_of_assignment (operator name : String) {value : Node}
    (arithmetic : Arithmetic value) :
    Begins ⟨.assignment, some operator, [identifier name, value]⟩ := by
  have quiet := quiet_of_arithmetic arithmetic
  constructor
  · intro index
    have spelt : starts true index (tokens ⟨.assignment, some operator, [identifier name, value]⟩) =
        (index, .identifier) :: starts false (index + 2) (value.tokens ++ [.symbol .semicolon]) := rfl
    have places : placed index ⟨.assignment, some operator, [identifier name, value]⟩ =
        (index, ⟨.assignment, some operator, [identifier name, value]⟩) ::
          (index, identifier name) :: (placed (index + 2) value ++ []) := rfl
    rw [spelt, places, Token.starts_append, quiet.tokens, quiet.behind, List.append_nil,
      List.filterMap_cons, List.filterMap_cons, quiet.places]
    rfl
  · have spelt : freeBehind true
        (tokens ⟨.assignment, some operator, [identifier name, value]⟩) =
          freeBehind false (value.tokens ++ [.symbol .semicolon]) := rfl
    rw [spelt, Token.freeBehind_append]
    rfl

theorem begins_of_conditional (keyword : String) {test : Node} {body : List Node}
    (condition : Condition test) (each : ∀ node ∈ body, Begins node) :
    Begins ⟨.conditional, some keyword, [test, statements body]⟩ := by
  have quiet := quiet_of_condition condition
  have block := begins_statements each
  constructor
  · intro index
    have spelt : starts true index (tokens ⟨.conditional, some keyword, [test, statements body]⟩) =
        (index, .ifWord) :: starts false (index + 2) (test.tokens ++ .symbol .rparen ::
          .symbol .lbrace :: (statements body).tokens ++ [.symbol .rbrace]) := rfl
    have inner : starts false (index + 2 + test.tokens.length) (.symbol .rparen ::
          .symbol .lbrace :: ((statements body).tokens ++ [.symbol .rbrace])) =
        starts true (index + 2 + test.tokens.length + 2)
          ((statements body).tokens ++ [.symbol .rbrace]) := rfl
    have places : placed index ⟨.conditional, some keyword, [test, statements body]⟩ =
        (index, ⟨.conditional, some keyword, [test, statements body]⟩) ::
          (placed (index + 2) test ++
            (placed (index + 2 + test.tokens.length + 2) (statements body) ++ [])) := rfl
    rw [spelt, List.append_assoc, Token.starts_append, quiet.tokens, quiet.behind, List.cons_append,
      List.cons_append, inner, Token.starts_append, block.tokens, block.behind, places,
      List.append_nil, List.filterMap_cons, List.filterMap_append, quiet.places]
    simp [starts, start?, Kind.opening?]
  · have spelt : tokens ⟨.conditional, some keyword, [test, statements body]⟩ =
        (.mk .ifWord keyword :: .symbol .lparen :: test.tokens ++
          .symbol .rparen :: .symbol .lbrace :: (statements body).tokens) ++ [.symbol .rbrace] := rfl
    rw [spelt, Token.freeBehind_append]
    rfl

theorem begins_of_statement {node : Node} (statement : Statement node) : Begins node := by
  induction statement with
  | declaration keyword name => exact ⟨fun _ => rfl, rfl⟩
  | assignment operator name arithmetic => exact begins_of_assignment operator name arithmetic
  | conditional keyword condition all ih => exact begins_of_conditional keyword condition ih

theorem starts_of_written {node : Node} (formed : WellFormed node) {read : List Token}
    (written : Written node read) : starts true 0 read = (placed 0 node).filterMap start? := by
  obtain ⟨body, rfl, all⟩ := formed
  have block := begins_statements fun inner member => begins_of_statement (all inner member)
  rw [← block.tokens, ← written, Token.starts_map_plain]

end Node
end StatementParser
