import StatementParser.Proofs.Node.Braces
import StatementParser.Proofs.Rule.Expression
import StatementParser.Rule.Statement

/-!
Statements are read as trees of their shapes, with conditionals no deeper inside each other than the
limit allows below the depth at which reading began. Where reading stops, a token of the kind asked
for lets the open statement and the blocks around it be completed within the same limit. A block is
left unclosed only at the end of the input, and a conditional is too deep only inside as many open
blocks as there may be.
-/
namespace StatementParser

open Node (Leaf Arithmetic Condition Statement Written nestingAll)
open Token (opened)

def Within (limit : Option Nat) (depth : Nat) : Prop :=
  ∀ bound ∈ limit, depth ≤ bound

theorem Within.mono {limit : Option Nat} {deep shallow : Nat} (within : Within limit deep)
    (le : shallow ≤ deep) : Within limit shallow :=
  fun bound member => Nat.le_trans le (within bound member)

theorem within_zero (limit : Option Nat) : Within limit 0 :=
  fun bound _ => Nat.zero_le bound

theorem within_succ {limit : Option Nat} {depth : Nat} (within : Within limit depth)
    (free : limit ≠ some depth) : Within limit (depth + 1) := by
  intro bound member
  have le := within bound member
  have differs : depth ≠ bound := by
    intro same
    subst same
    exact free member
  omega

namespace Node

/-- A statement that may stand wherever a conditional may have been opened. -/
def Fits (limit : Option Nat) (depth : Nat) (node : Node) : Prop :=
  Statement node ∧ (Within limit depth → Within limit (depth + node.nesting))

section

variable (limit : Option Nat) (depth : Nat)

theorem fits_declaration (keyword name : String) :
    Fits limit depth ⟨.declaration, some keyword, [identifier name]⟩ :=
  ⟨.declaration keyword name, id⟩

theorem fits_assignment (operator name : String) {value : Node} (arithmetic : Arithmetic value) :
    Fits limit depth ⟨.assignment, some operator, [identifier name, value]⟩ := by
  refine ⟨.assignment operator name arithmetic, ?_⟩
  rw [nesting_assignment operator name arithmetic]
  exact id

theorem exists_fits_of_identifier {token : Token} (named : token.kind = .identifier) :
    ∃ more node, Fits limit depth node ∧ Written node (token :: more) := by
  obtain ⟨kind, text⟩ := token
  cases named
  exact ⟨[.symbol .assign, .symbol .number, .symbol .semicolon], _,
    fits_assignment limit depth "=" text (.leaf (.number "")), rfl⟩

end

theorem fits_conditional {limit : Option Nat} {depth : Nat} (free : limit ≠ some depth)
    (keyword : String) {test : Node} {body : List Node} (condition : Condition test)
    (all : ∀ node ∈ body, Fits limit (depth + 1) node) :
    Fits limit depth ⟨.conditional, some keyword, [test, statements body]⟩ := by
  refine ⟨.conditional keyword condition fun node member => (all node member).1, ?_⟩
  intro room bound member
  have deeper := within_succ room free
  have least := deeper bound member
  have below : nestingAll body ≤ bound - (depth + 1) := by
    rw [nestingAll_le_iff]
    intro node inside
    have le := (all node inside).2 deeper bound member
    omega
  rw [nesting_conditional keyword body condition]
  omega

theorem Leaf.tokens_pos {node : Node} (single : Leaf node) : 0 < node.tokens.length := by
  cases single <;> simp

theorem Arithmetic.tokens_pos {node : Node} (arithmetic : Arithmetic node) :
    0 < node.tokens.length := by
  cases arithmetic with
  | leaf single => exact single.tokens_pos
  | plus operator before last =>
    rw [tokens_plus, List.length_append]
    exact Nat.add_pos_right _ (Nat.succ_pos _)
  | minus operator before last =>
    rw [tokens_minus, List.length_append]
    exact Nat.add_pos_right _ (Nat.succ_pos _)

theorem Condition.tokens_pos {node : Node} (condition : Condition node) :
    0 < node.tokens.length := by
  cases condition with
  | value arithmetic => exact arithmetic.tokens_pos
  | equal operator before behind =>
    rw [tokens_equal, List.length_append]
    exact Nat.add_pos_right _ (Nat.succ_pos _)

theorem Statement.tokens_pos {node : Node} (statement : Statement node) :
    0 < node.tokens.length := by
  cases statement <;> simp

theorem Statement.exists_first {node : Node} (statement : Statement node) {read : List Token}
    (written : Written node read) :
    ∃ token rest, read = token :: rest ∧ token.kind ≠ .rbrace ∧ token.kind ≠ .eof := by
  cases statement with
  | declaration keyword name =>
    obtain ⟨rest, rfl, -⟩ := Token.exists_cons_of_plain written rfl
    exact ⟨_, rest, rfl, by simp, by simp⟩
  | assignment operator name arithmetic =>
    obtain ⟨rest, rfl, -⟩ := Token.exists_cons_of_plain written rfl
    exact ⟨_, rest, rfl, by simp, by simp⟩
  | conditional keyword condition all =>
    obtain ⟨rest, rfl, -⟩ := Token.exists_cons_of_plain written rfl
    exact ⟨_, rest, rfl, by simp, by simp⟩

end Node

open Node (Fits)

/-- What the reason of a refusal tells of the blocks around: the tokens read open them, below the
depth at which reading began. -/
structure Site (limit : Option Nat) (depth : Nat) (reason : Reason) (read : List Token)
    (found : Token) : Prop where
  possible : reason ≠ .identifier
  unclosed : reason = .braceAfterStatements → found.kind = .eof
  full : reason = .tooDeep →
    found.kind = .ifWord ∧ ∃ bound ∈ limit, depth + opened read = bound

section

variable {limit : Option Nat} {depth deeper : Nat} {reason : Reason} {read more : List Token}
  {found : Token}

theorem site_of_local (plain : reason.isLocal = true) : Site limit depth reason read found where
  possible := by
    rintro rfl
    cases plain
  unclosed := by
    rintro rfl
    cases plain
  full := by
    rintro rfl
    cases plain

theorem site_of_stops (ended : found.kind = .eof) :
    Site limit depth .braceAfterStatements read found where
  possible := by decide
  unclosed _ := ended
  full deep := by cases deep

theorem Site.append (level : depth + opened read = deeper) (site : Site limit deeper reason more found) :
    Site limit depth reason (read ++ more) found where
  possible := site.possible
  unclosed := site.unclosed
  full := by
    intro deep
    obtain ⟨word, bound, member, full⟩ := site.full deep
    refine ⟨word, bound, member, ?_⟩
    rw [Token.opened_append]
    omega

end

def Block (limit : Option Nat) (depth : Nat) (node : Node) (read : List Token) : Prop :=
  ∃ body, node = .statements body ∧ (∀ inner ∈ body, Fits limit depth inner) ∧ Written node read

/-- The tokens of a conditional up to the brace that opens its block. -/
def Header (start : String × Node) (read : List Token) : Prop :=
  ∃ opening word closing begun, Condition start.2 ∧ Written start.2 word ∧
    read = ⟨.ifWord, start.1⟩ :: ⟨.lparen, opening⟩ ::
      (word ++ [⟨.rparen, closing⟩, ⟨.lbrace, begun⟩])

theorem opened_header {start : String × Node} {read : List Token} (header : Header start read) :
    opened read = 1 := by
  obtain ⟨opening, word, closing, begun, condition, written, rfl⟩ := header
  have inner : opened word = 0 := by rw [Node.opened_of_written written, condition.opened]
  simp [inner, Kind.opens]

theorem Header.length_pos {start : String × Node} {read : List Token} (header : Header start read) :
    0 < read.length := by
  obtain ⟨opening, word, closing, begun, condition, written, rfl⟩ := header
  exact Nat.succ_pos _

namespace Task

def statement (limit : Option Nat) (depth : Nat) : Task Node where
  yields node read := Fits limit depth node ∧ Written node read
  refuses := Site limit depth
  free := true
  ends := true

def further (limit : Option Nat) (depth : Nat) (done : List Node) : Task Node where
  yields node read := ∃ body, node = .statements (done.reverse ++ body) ∧
    (∀ inner ∈ body, Fits limit depth inner) ∧ Written (.statements body) read
  refuses := Site limit depth
  free := true
  ends := true

def block (limit : Option Nat) (depth : Nat) : Task Node where
  yields := Block limit depth
  refuses := Site limit depth
  free := true
  ends := true

end Task

namespace Rule

theorem reads_declaration (limit : Option Nat) (depth : Nat) {state : State}
    (same : state.current.kind = .intWord) :
    Reads (.inside (fun node read => Fits limit depth node ∧ Written node read) true) declaration
      state := by
  obtain ⟨keyword, split⟩ := Token.exists_text same
  have more : state.current.kind ≠ .eof := by simp [same]
  apply reads_bind (reads_take more (.inl rfl) (congrArg Kind.separates same))
  intro word read first met _
  obtain ⟨rfl, rfl⟩ := met
  apply reads_bind (reads_expect .identifier .identifierAfterInt first rfl (fun _ => rfl) (.inl rfl))
  intro name read second met _
  subst met
  apply reads_bind (reads_expect .semicolon .semicolonAfterDeclaration second rfl (fun _ => rfl)
    (.inl rfl))
  intro text read last met _
  subst met
  refine reads_pure last ?_ rfl
  rw [split]
  exact ⟨Node.fits_declaration limit depth keyword name,
    Node.written_declaration keyword name text⟩

theorem reads_assignment (limit : Option Nat) (depth : Nat) {state : State}
    (same : state.current.kind = .identifier) :
    Reads (.inside (fun node read => Fits limit depth node ∧ Written node read) true) assignment
      state := by
  apply reads_bind (reads_expect .identifier .identifier state rfl (fun other => absurd same other)
    (.inl rfl))
  intro name read first met _
  subst met
  apply reads_bind (reads_expect .assign .assignAfterIdentifier first rfl (fun _ => rfl) (.inl rfl))
  intro operator read second met _
  subst met
  apply reads_bind (reads_expression second)
  intro value word third met _
  obtain ⟨arithmetic, written⟩ := met
  apply reads_bind (reads_expect .semicolon .semicolonAfterExpression third rfl (fun _ => rfl)
    (.inl rfl))
  intro text read last met _
  subst met
  refine reads_pure last ?_ rfl
  exact ⟨Node.fits_assignment limit depth operator name arithmetic,
    Node.written_assignment name operator text written⟩

def header : Rule (String × Node) := do
  let keyword ← take
  let _ ← expect .lparen .parenAfterIf
  let test ← condition
  let _ ← expect .rparen .parenAfterCondition
  let _ ← expect .lbrace .braceAfterCondition
  pure (keyword.text, test)

theorem conditional_eq (limit : Option Nat) (block : Rule Node) :
    conditional limit block = (do
      if tooDeep limit (← get) then refuse .tooDeep
      else
        let start ← header
        let body ← nested block
        let _ ← expect .rbrace .braceAfterStatements
        pure ⟨.conditional, some start.1, [start.2, body]⟩) := by
  unfold conditional header
  simp only [bind_assoc, pure_bind]

theorem reads_header {state : State} (same : state.current.kind = .ifWord) :
    Reads (.inside Header true) header state := by
  obtain ⟨keyword, split⟩ := Token.exists_text same
  have more : state.current.kind ≠ .eof := by simp [same]
  apply reads_bind (reads_take more (.inl rfl) (congrArg Kind.separates same))
  intro start read first met _
  obtain ⟨rfl, rfl⟩ := met
  apply reads_bind (reads_expect .lparen .parenAfterIf first rfl (fun _ => rfl) (.inl rfl))
  intro opening read second met _
  subst met
  apply reads_bind (reads_condition second)
  intro test word third met _
  obtain ⟨condition, written⟩ := met
  apply reads_bind (reads_expect .rparen .parenAfterCondition third rfl (fun _ => rfl) (.inl rfl))
  intro closing read fourth met _
  subst met
  apply reads_bind (reads_expect .lbrace .braceAfterCondition fourth rfl (fun _ => rfl) (.inl rfl))
  intro begun read fifth met _
  subst met
  refine reads_pure fifth ?_ rfl
  rw [split]
  exact ⟨opening, word, closing, begun, condition, written, rfl⟩

/-- Run at this state the rule reads a block, up to a brace or the end. -/
structure ReadsBlock (limit : Option Nat) (block : Rule Node) (state : State) : Prop where
  reads : Reads (.block limit state.depth) block state
  stops : ∀ node after, block.run state = .ok node after →
    after.current.kind = .rbrace ∨ after.current.kind = .eof

theorem stops_of_behind {limit : Option Nat} {block : Rule Node} {state last : State} {node : Node}
    {read : List Token} (inner : ReadsBlock limit block { state with depth := state.depth + 1 })
    (behind : Behind (nested block) state node read last) :
    last.current.kind = .rbrace ∨ last.current.kind = .eof := by
  rcases behind.ran with ran | empty
  · obtain ⟨middle, done, rfl⟩ := of_nested_ok ran
    exact inner.stops node middle done
  · rw [current_of_ahead_nil empty]
    exact .inr rfl

section

variable {limit : Option Nat} {block : Rule Node} {state : State}

theorem reads_conditional (same : state.current.kind = .ifWord)
    (inner : ∀ other : State, other.depth = state.depth + 1 →
      other.ahead.length < state.ahead.length → ReadsBlock limit block other) :
    Reads { Task.statement limit state.depth with free := false } (conditional limit block)
      state := by
  rw [conditional_eq]
  apply reads_get
  · intro other depth
    have verdict : tooDeep limit other = tooDeep limit state := by simp only [tooDeep, depth]
    rw [verdict]
  have more : 0 < state.ahead.length := by
    cases ahead : state.ahead with
    | nil => simp [current_of_ahead_nil ahead, Token.eof] at same
    | cons token rest => exact Nat.succ_pos _
  split
  next deep =>
    have full : limit = some state.depth := by simpa [tooDeep] using deep
    refine reads_refuse ⟨by decide, fun other => absurd other (by decide), fun _ => ?_⟩ ?_ ?_
    · exact ⟨same, state.depth, full, by simp⟩
    · rw [same]
      decide
    · intro token named
      exact Node.exists_fits_of_identifier limit state.depth named
  next free =>
    have shallow : limit ≠ some state.depth := by simpa [tooDeep] using free
    apply reads_bind ((reads_header same).mono (fun _ _ met => met)
      (fun _ _ _ plain => site_of_local plain) rfl rfl)
    intro start read after header behind
    have less := header.length_pos
    have shorter := behind.shorter
    have held := inner { after with depth := after.depth + 1 } (congrArg (· + 1) behind.depth)
      (by dsimp only; omega)
    have level : state.depth + opened read = ((after.depth + 1 : Nat) : Int) := by
      rw [opened_header header, behind.depth]
      rfl
    have body : Reads ⟨Block limit (after.depth + 1),
        fun reason more => Site limit state.depth reason (read ++ more), true, true⟩ (nested block)
        after :=
      reads_nested (held.reads.mono (fun _ _ met => met) (fun _ _ _ site => site.append level) rfl rfl)
    apply reads_bind body
    intro node words last met ended
    have stops := stops_of_behind held ended
    refine reads_bind (reads_expect .rbrace .braceAfterStatements last rfl
      (fun other => site_of_stops (stops.resolve_left other)) (.inr rfl)) ?_
    intro text word final brace _
    subst brace
    obtain ⟨body, rfl, all, spelt⟩ := met
    rw [behind.depth] at all
    obtain ⟨opening, tested, closing, begun, condition, written, rfl⟩ := header
    refine reads_pure final ⟨Node.fits_conditional shallow start.1 condition all, ?_⟩ rfl
    have whole := Node.written_conditional start.1 opening closing begun text written spelt
    simpa using whole

theorem reads_statement (more : state.current.kind ≠ .eof)
    (inner : ∀ other : State, other.depth = state.depth + 1 →
      other.ahead.length < state.ahead.length → ReadsBlock limit block other) :
    Reads (.statement limit state.depth) (statement limit block) state := by
  refine reads_announce rfl ?_ more ?_
  · intro node read met
    obtain ⟨token, rest, split, other, -⟩ := met.1.1.exists_first met.2
    exact ⟨token, rest, split, other⟩
  apply reads_current
  have plain : ∀ {rule : Rule Node} {other : State},
      Reads (.inside (fun node read => Fits limit state.depth node ∧ Written node read) true) rule
        other →
      Reads { Task.statement limit state.depth with free := false } rule other :=
    fun reads => reads.mono (fun _ _ met => met) (fun _ _ _ plain => site_of_local plain) rfl rfl
  split
  next same => exact plain (reads_declaration limit state.depth same)
  next same => exact plain (reads_assignment limit state.depth same)
  next same => exact reads_conditional same inner
  next notDeclared notAssigned notConditional =>
    refine reads_refuse (site_of_local rfl) notAssigned ?_
    intro token named
    exact Node.exists_fits_of_identifier limit state.depth named

end

theorem length_lt_of_reads_statement {limit : Option Nat} {rule : Rule Node} {state after : State}
    {node : Node} (reads : Reads (.statement limit state.depth) rule state)
    (ran : rule.run state = .ok node after) : after.ahead.length < state.ahead.length := by
  obtain ⟨read, ⟨fits, written⟩, split, -⟩ := reads.exists_read ran
  obtain ⟨token, rest, rfl, -⟩ := fits.1.exists_first written
  rw [split, List.length_append, List.length_cons]
  omega

theorem reads_block {limit : Option Nat} {depth : Nat} {rule : Rule Node} {state : State}
    (reads : Reads (.further limit depth []) rule state) : Reads (.block limit depth) rule state := by
  refine reads.mono ?_ (fun _ _ _ site => site) rfl rfl
  intro node read met
  obtain ⟨body, rfl, all, written⟩ := met
  exact ⟨body, rfl, all, written⟩

theorem reads_bind_statement {limit : Option Nat} {rule : Rule Node} {next : Node → Rule Node}
    {done : List Node} {state : State} (head : Reads (.statement limit state.depth) rule state)
    (tail : ∀ (node : Node) (after : State), after.ahead.length ≤ state.ahead.length - 1 →
      Reads (.further limit after.depth (node :: done)) (next node) after) :
    Reads (.further limit state.depth done) (rule >>= next) state := by
  have first : Reads ⟨(Task.statement limit state.depth).yields,
      (Task.further limit state.depth done).refuses, true, true⟩ rule state := head
  refine reads_bind first ?_
  intro node word after met behind
  obtain ⟨fits, written⟩ := met
  have positive := fits.1.tokens_pos
  rw [← written, List.length_map] at positive
  have shorter := behind.shorter
  have level : state.depth + opened word = (after.depth : Int) := by
    rw [Node.opened_of_written written, fits.1.opened, behind.depth, Int.add_zero]
  refine (tail node after (by omega)).mono ?_ (fun _ _ _ site => site.append level) rfl rfl
  intro program rest met
  obtain ⟨body, rfl, all, spelt⟩ := met
  rw [behind.depth] at all
  refine ⟨node :: body, by simp, ?_, Node.written_statements_cons written spelt⟩
  intro inner member
  rcases List.mem_cons.mp member with rfl | behind
  · exact fits
  · exact all inner behind

theorem reads_statementsAfter (limit : Option Nat) (room : List Token) (close : Kind)
    (done : List Node) {state : State} (enough : state.ahead.length ≤ room.length) :
    Reads (.further limit state.depth done) (statementsAfter limit room close done) state ∧
      ∀ node after, (statementsAfter limit room close done).run state = .ok node after →
        after.current.kind = close ∨ after.current.kind = .eof := by
  induction room generalizing close done state with
  | nil =>
    have empty : state.ahead = [] := List.eq_nil_of_length_eq_zero (Nat.le_zero.mp enough)
    refine ⟨reads_pure state ⟨[], by simp, by simp, rfl⟩ rfl, ?_⟩
    intro node after ran
    cases ran
    rw [current_of_ahead_nil empty]
    exact .inr rfl
  | cons bound room ih =>
    simp only [List.length_cons] at enough
    have inner : ∀ other : State, other.depth = state.depth + 1 →
        other.ahead.length < state.ahead.length →
        ReadsBlock limit (statementsAfter limit room .rbrace []) other := by
      intro other _ less
      have covered : other.ahead.length ≤ room.length := by omega
      obtain ⟨reads, stops⟩ := ih .rbrace [] covered
      exact ⟨reads_block reads, stops⟩
    by_cases stop : state.current.kind = close ∨ state.current.kind = .eof
    · refine ⟨reads_current ?_, ?_⟩
      · dsimp only
        rw [if_pos stop]
        exact reads_pure state ⟨[], by simp, by simp, rfl⟩ rfl
      · intro node after ran
        rw [statementsAfter, EStateM.run_bind, run_current] at ran
        dsimp only at ran
        rw [if_pos stop] at ran
        cases ran
        exact stop
    · have head := reads_statement (fun ended => stop (.inr ended)) inner
      refine ⟨reads_current ?_, ?_⟩
      · dsimp only
        rw [if_neg stop]
        exact reads_bind_statement head fun node after less => (ih close (node :: done) (by omega)).1
      · intro node after ran
        rw [statementsAfter, EStateM.run_bind, run_current] at ran
        dsimp only at ran
        rw [if_neg stop] at ran
        obtain ⟨first, middle, read, tail⟩ := of_bind_ok ran
        have shorter := length_lt_of_reads_statement head read
        exact (ih close (first :: done) (by omega)).2 node after tail

end Rule
end StatementParser
