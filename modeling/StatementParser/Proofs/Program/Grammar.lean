import StatementParser.Proofs.Program.Outcome

/-!
The grammar of programs, as derivations of sequences of kinds from its symbols:

statements = statement* statement = declaration | assignment | conditional declaration = int
identifier ; assignment = identifier = expression ; conditional = if ( condition ) { statements }
condition = expression ( == expression )? expression = term additions additions = ( ( + | - ) term
)* term = number | identifier

Well-formed trees are the derivations once more: what a symbol derives is the source of a tree of
its shape, and the source of such a tree is derived. So the parser accepts what the grammar derives.
-/
namespace StatementParser

open Node (Leaf Arithmetic Condition Statement Written WellFormed)

inductive Symbol where
  | statements
  | statement
  | declaration
  | assignment
  | conditional
  | condition
  | expression
  | additions
  | term
  deriving DecidableEq, Repr

/-- The symbol derives the kinds, with conditionals at most so deep inside each other. -/
inductive Derives : Nat → Symbol → List Kind → Prop where
  | noStatements {depth : Nat} : Derives depth .statements []
  | moreStatements {depth : Nat} {first rest : List Kind} (head : Derives depth .statement first)
      (tail : Derives depth .statements rest) : Derives depth .statements (first ++ rest)
  | declared {depth : Nat} {word : List Kind} (inner : Derives depth .declaration word) :
      Derives depth .statement word
  | assigned {depth : Nat} {word : List Kind} (inner : Derives depth .assignment word) :
      Derives depth .statement word
  | decided {depth : Nat} {word : List Kind} (inner : Derives depth .conditional word) :
      Derives depth .statement word
  | declaration {depth : Nat} : Derives depth .declaration [.intWord, .identifier, .semicolon]
  | assignment {depth : Nat} {word : List Kind} (value : Derives depth .expression word) :
      Derives depth .assignment ([.identifier, .assign] ++ word ++ [.semicolon])
  | conditional {depth : Nat} {tested body : List Kind} (test : Derives depth .condition tested)
      (block : Derives depth .statements body) :
      Derives (depth + 1) .conditional
        ([.ifWord, .lparen] ++ tested ++ [.rparen, .lbrace] ++ body ++ [.rbrace])
  | value {depth : Nat} {word : List Kind} (inner : Derives depth .expression word) :
      Derives depth .condition word
  | equality {depth : Nat} {first second : List Kind} (left : Derives depth .expression first)
      (right : Derives depth .expression second) :
      Derives depth .condition (first ++ [.equal] ++ second)
  | expression {depth : Nat} {first rest : List Kind} (head : Derives depth .term first)
      (tail : Derives depth .additions rest) : Derives depth .expression (first ++ rest)
  | noAdditions {depth : Nat} : Derives depth .additions []
  | plus {depth : Nat} {first rest : List Kind} (head : Derives depth .term first)
      (tail : Derives depth .additions rest) : Derives depth .additions (.plus :: first ++ rest)
  | minus {depth : Nat} {first rest : List Kind} (head : Derives depth .term first)
      (tail : Derives depth .additions rest) : Derives depth .additions (.minus :: first ++ rest)
  | number {depth : Nat} : Derives depth .term [.number]
  | identifier {depth : Nat} : Derives depth .term [.identifier]

def Node.kinds (node : Node) : List StatementParser.Kind :=
  node.tokens.map Token.kind

theorem kinds_of_written {node : Node} {read : List Token} (written : Written node read) :
    read.map Token.kind = node.kinds := by
  unfold Node.kinds
  calc
    read.map Token.kind = (read.map Token.plain).map Token.kind := by
      rw [List.map_map]
      exact List.map_congr_left fun token _ => (Token.kind_plain token).symm
    _ = node.tokens.map Token.kind := by rw [written]

theorem derives_leaf {node : Node} (single : Leaf node) (depth : Nat) :
    Derives depth .term node.kinds := by
  cases single with
  | identifier text => exact .identifier
  | number text => exact .number

/-- The last sign and leaf of a chain are the first of what is added to the rest of it. -/
theorem derives_arithmetic_append {node : Node} (arithmetic : Arithmetic node) {depth : Nat}
    {rest : List Kind} (tail : Derives depth .additions rest) :
    Derives depth .expression (node.kinds ++ rest) := by
  induction arithmetic generalizing rest with
  | leaf single => exact .expression (derives_leaf single depth) tail
  | plus operator before last ih =>
    have added := ih (.plus (derives_leaf last depth) tail)
    simpa [Node.kinds] using added
  | minus operator before last ih =>
    have added := ih (.minus (derives_leaf last depth) tail)
    simpa [Node.kinds] using added

theorem derives_arithmetic {node : Node} (arithmetic : Arithmetic node) (depth : Nat) :
    Derives depth .expression node.kinds := by
  have alone : Derives depth .expression (node.kinds ++ []) :=
    derives_arithmetic_append arithmetic .noAdditions
  rw [List.append_nil] at alone
  exact alone

theorem derives_condition {node : Node} (condition : Condition node) (depth : Nat) :
    Derives depth .condition node.kinds := by
  cases condition with
  | value arithmetic => exact .value (derives_arithmetic arithmetic depth)
  | equal operator before behind =>
    have both := Derives.equality (derives_arithmetic before depth) (derives_arithmetic behind depth)
    simpa [Node.kinds] using both

theorem derives_statements {body : List Node} {depth : Nat}
    (each : ∀ node ∈ body, Derives depth .statement node.kinds) :
    Derives depth .statements (Node.statements body).kinds := by
  induction body with
  | nil => exact .noStatements
  | cons node body ih =>
    have head := each node List.mem_cons_self
    have tail := ih fun inner member => each inner (List.mem_cons_of_mem node member)
    have both := Derives.moreStatements head tail
    simpa [Node.kinds] using both

theorem derives_statement {node : Node} (formed : Statement node) {depth : Nat}
    (fits : node.nesting ≤ depth) : Derives depth .statement node.kinds := by
  induction formed generalizing depth with
  | declaration keyword name => exact .declared .declaration
  | assignment operator name arithmetic =>
    have assigned := Derives.assignment (derives_arithmetic arithmetic depth)
    exact .assigned (by simpa [Node.kinds] using assigned)
  | @conditional keyword test body condition all ih =>
    rw [Node.nesting_conditional keyword body condition] at fits
    obtain ⟨depth, rfl⟩ : ∃ inner, depth = inner + 1 := ⟨depth - 1, by omega⟩
    have least : Node.nestingAll body ≤ depth := by omega
    have block := derives_statements fun node member =>
      ih node member (Node.nestingAll_le_iff.mp least node member)
    have decided := Derives.conditional (derives_condition condition depth) block
    exact .decided (by simpa [Node.kinds] using decided)

/-- What the trees of a symbol are, given as tokens that one of them is written with; for additions,
whatever chain they are added to. -/
def Symbol.Spells (depth : Nat) : Symbol → List Token → Prop
  | .statements, read => ∃ node, WellFormed node ∧ node.nesting ≤ depth ∧ Written node read
  | .statement, read | .declaration, read | .assignment, read | .conditional, read =>
    ∃ node, Statement node ∧ node.nesting ≤ depth ∧ Written node read
  | .condition, read => ∃ node, Condition node ∧ Written node read
  | .expression, read => ∃ node, Arithmetic node ∧ Written node read
  | .additions, read => ∀ left, Arithmetic left →
    ∃ node, Arithmetic node ∧ left.tokens ++ read.map Token.plain = node.tokens
  | .term, read => ∃ node, Leaf node ∧ Written node read

namespace Symbol

variable {depth : Nat}

theorem spells_statements_nil : statements.Spells depth [] :=
  ⟨.statements [], ⟨[], rfl, by simp⟩, Nat.zero_le depth, rfl⟩

theorem spells_statements_append {first rest : List Token} (head : statement.Spells depth first)
    (tail : statements.Spells depth rest) : statements.Spells depth (first ++ rest) := by
  obtain ⟨node, formed, fits, written⟩ := head
  obtain ⟨_, ⟨body, rfl, all⟩, allFit, behind⟩ := tail
  refine ⟨.statements (node :: body), ⟨node :: body, rfl, ?_⟩, ?_, ?_⟩
  · intro inner member
    rcases List.mem_cons.mp member with rfl | member
    · exact formed
    · exact all inner member
  · exact Nat.max_le.mpr ⟨fits, allFit⟩
  · exact Node.written_statements_cons written behind

theorem spells_declaration (keyword name text : String) : declaration.Spells depth
    [⟨.intWord, keyword⟩, ⟨.identifier, name⟩, ⟨.semicolon, text⟩] :=
  ⟨_, .declaration keyword name, Nat.zero_le depth, Node.written_declaration keyword name text⟩

theorem spells_assignment (name operator text : String) {word : List Token}
    (value : expression.Spells depth word) : assignment.Spells depth
      (⟨.identifier, name⟩ :: ⟨.assign, operator⟩ :: (word ++ [⟨.semicolon, text⟩])) := by
  obtain ⟨node, arithmetic, written⟩ := value
  refine ⟨_, .assignment operator name arithmetic, ?_, Node.written_assignment _ _ _ written⟩
  rw [Node.nesting_assignment operator name arithmetic]
  exact Nat.zero_le depth

theorem spells_conditional (keyword opening closing begun ended : String)
    {tested words : List Token} (test : condition.Spells depth tested)
    (block : statements.Spells depth words) : conditional.Spells (depth + 1)
      (⟨.ifWord, keyword⟩ :: ⟨.lparen, opening⟩ :: (tested ++
        ⟨.rparen, closing⟩ :: ⟨.lbrace, begun⟩ :: (words ++ [⟨.rbrace, ended⟩]))) := by
  obtain ⟨node, shape, spelt⟩ := test
  obtain ⟨_, ⟨body, rfl, all⟩, fits, written⟩ := block
  refine ⟨_, .conditional keyword shape all, ?_, ?_⟩
  · rw [Node.nesting_conditional keyword body shape]
    exact Nat.succ_le_succ fits
  · exact Node.written_conditional keyword opening closing begun ended spelt written

theorem spells_condition_equal (operator : String) {first second : List Token}
    (left : expression.Spells depth first) (right : expression.Spells depth second) :
    condition.Spells depth (first ++ ⟨.equal, operator⟩ :: second) := by
  obtain ⟨before, leftArithmetic, leftWritten⟩ := left
  obtain ⟨behind, rightArithmetic, rightWritten⟩ := right
  exact ⟨_, .equal operator leftArithmetic rightArithmetic,
    Node.written_equal operator leftWritten rightWritten⟩

theorem spells_expression {first rest : List Token} (head : term.Spells depth first)
    (tail : additions.Spells depth rest) : expression.Spells depth (first ++ rest) := by
  obtain ⟨left, single, written⟩ := head
  obtain ⟨node, arithmetic, whole⟩ := tail left (.leaf single)
  refine ⟨node, arithmetic, ?_⟩
  rw [Written, List.map_append, written, whole]

theorem spells_additions_nil : additions.Spells depth [] := by
  intro left arithmetic
  exact ⟨left, arithmetic, by simp⟩

theorem spells_additions_cons {sign : Token} {kind : Node.Kind}
    (found : Rule.operatorKind? sign.kind = some kind) {first rest : List Token}
    (head : term.Spells depth first) (tail : additions.Spells depth rest) :
    additions.Spells depth (sign :: (first ++ rest)) := by
  obtain ⟨right, single, written⟩ := head
  intro left arithmetic
  obtain ⟨node, whole, spelt⟩ :=
    tail _ (Node.arithmetic_of_operatorKind? found arithmetic single)
  refine ⟨node, whole, ?_⟩
  calc
    left.tokens ++ (sign :: (first ++ rest)).map Token.plain
        = left.tokens ++ sign :: (right.tokens ++ rest.map Token.plain) := by
      rw [List.map_cons, List.map_append, written, Rule.plain_of_operatorKind? found]
    _ = (Node.binary kind sign.text left right).tokens ++ rest.map Token.plain := by
      rw [Node.tokens_binary_of_operatorKind? found, List.append_assoc, List.cons_append]
    _ = node.tokens := spelt

end Symbol

theorem spells_of_derives {depth : Nat} {symbol : Symbol} {word : List Kind}
    (derived : Derives depth symbol word) {read : List Token} (same : read.map Token.kind = word) :
    symbol.Spells depth read := by
  induction derived generalizing read with
  | noStatements =>
    obtain rfl := List.map_eq_nil_iff.mp same
    exact Symbol.spells_statements_nil
  | moreStatements head tail headIh tailIh =>
    obtain ⟨first, rest, rfl, sameFirst, sameRest⟩ := List.map_eq_append_iff.mp same
    exact Symbol.spells_statements_append (headIh sameFirst) (tailIh sameRest)
  | declared inner ih => exact ih same
  | assigned inner ih => exact ih same
  | decided inner ih => exact ih same
  | declaration =>
    obtain ⟨⟨_, keyword⟩, tail, rfl, rfl, second⟩ := List.map_eq_cons_iff.mp same
    obtain ⟨⟨_, name⟩, tail, rfl, rfl, third⟩ := List.map_eq_cons_iff.mp second
    obtain ⟨⟨_, text⟩, rfl, rfl⟩ := List.map_eq_singleton_iff.mp third
    exact Symbol.spells_declaration keyword name text
  | assignment value ih =>
    obtain ⟨⟨_, name⟩, tail, rfl, rfl, second⟩ := List.map_eq_cons_iff.mp same
    obtain ⟨⟨_, operator⟩, tail, rfl, rfl, third⟩ := List.map_eq_cons_iff.mp second
    obtain ⟨word, tail, rfl, sameWord, last⟩ := List.map_eq_append_iff.mp third
    obtain ⟨⟨_, text⟩, rfl, rfl⟩ := List.map_eq_singleton_iff.mp last
    exact Symbol.spells_assignment name operator text (ih sameWord)
  | conditional test block testIh blockIh =>
    simp only [List.append_assoc, List.cons_append, List.nil_append] at same
    obtain ⟨⟨_, keyword⟩, tail, rfl, rfl, second⟩ := List.map_eq_cons_iff.mp same
    obtain ⟨⟨_, opening⟩, tail, rfl, rfl, third⟩ := List.map_eq_cons_iff.mp second
    obtain ⟨tested, tail, rfl, sameTest, fourth⟩ := List.map_eq_append_iff.mp third
    obtain ⟨⟨_, closing⟩, tail, rfl, rfl, fifth⟩ := List.map_eq_cons_iff.mp fourth
    obtain ⟨⟨_, begun⟩, tail, rfl, rfl, sixth⟩ := List.map_eq_cons_iff.mp fifth
    obtain ⟨words, tail, rfl, sameBody, last⟩ := List.map_eq_append_iff.mp sixth
    obtain ⟨⟨_, ended⟩, rfl, rfl⟩ := List.map_eq_singleton_iff.mp last
    exact Symbol.spells_conditional keyword opening closing begun ended (testIh sameTest)
      (blockIh sameBody)
  | value inner ih =>
    obtain ⟨node, arithmetic, written⟩ := ih same
    exact ⟨node, .value arithmetic, written⟩
  | equality left right leftIh rightIh =>
    rw [List.append_assoc] at same
    obtain ⟨first, tail, rfl, sameLeft, second⟩ := List.map_eq_append_iff.mp same
    obtain ⟨⟨_, operator⟩, word, rfl, rfl, sameRight⟩ := List.map_eq_cons_iff.mp second
    exact Symbol.spells_condition_equal operator (leftIh sameLeft) (rightIh sameRight)
  | expression head tail headIh tailIh =>
    obtain ⟨first, rest, rfl, sameFirst, sameRest⟩ := List.map_eq_append_iff.mp same
    exact Symbol.spells_expression (headIh sameFirst) (tailIh sameRest)
  | noAdditions =>
    obtain rfl := List.map_eq_nil_iff.mp same
    exact Symbol.spells_additions_nil
  | plus head tail headIh tailIh | minus head tail headIh tailIh =>
    obtain ⟨sign, behind, rfl, sameSign, second⟩ := List.map_eq_cons_iff.mp same
    obtain ⟨first, rest, rfl, sameFirst, sameRest⟩ := List.map_eq_append_iff.mp second
    have found := congrArg Rule.operatorKind? sameSign
    exact Symbol.spells_additions_cons found (headIh sameFirst) (tailIh sameRest)
  | number =>
    obtain ⟨⟨_, text⟩, rfl, rfl⟩ := List.map_eq_singleton_iff.mp same
    exact ⟨.number text, .number text, rfl⟩
  | identifier =>
    obtain ⟨⟨_, text⟩, rfl, rfl⟩ := List.map_eq_singleton_iff.mp same
    exact ⟨.identifier text, .identifier text, rfl⟩

/-- A program is accepted exactly when its statements are derived, whatever stands behind the first
`eof`, with conditionals at most so deep inside each other as the parser allows. -/
theorem Program.accepts_iff_derives (tokens : List Token) :
    (∃ node, Program.parse tokens = .ok node) ↔
      Derives Program.maxNesting .statements ((Token.beforeEof tokens).map Token.kind) := by
  constructor
  · intro accepts
    obtain ⟨node, accepted⟩ := accepts
    obtain ⟨⟨body, rfl, all⟩, fits, written⟩ :=
      Program.wellFormed_of_block (Program.block_of_parse_ok accepted)
    rw [kinds_of_written written]
    apply derives_statements
    intro inner member
    exact derives_statement (all inner member) (Node.nestingAll_le_iff.mp fits inner member)
  · intro derived
    obtain ⟨node, formed, fits, written⟩ := spells_of_derives derived rfl
    obtain ⟨rest, split, ends⟩ := Token.exists_beforeEof_append tokens
    refine ⟨node, ?_⟩
    rw [split]
    exact Program.parse_of_written formed fits written ends

end StatementParser
