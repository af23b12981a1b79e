import StatementParser.Program
import StatementParser.Proofs.Rule.Completeness

/-!
Parsing a program is reading statements from its tokens. An accepted program is the source of its
tree up to the first `eof`; a rejected one fails behind tokens that can still be completed to a
program, at a token with which no program goes on.
-/
namespace StatementParser

open Node (Statement Written WellFormed)

namespace Token

theorem isEof_iff {token : Token} : token.isEof = true ↔ token.kind = .eof := by
  simp [isEof]

/-- The tokens before the first `eof`. -/
def beforeEof (tokens : List Token) : List Token :=
  tokens.takeWhile fun token => !token.isEof

theorem beforeEof_append {read : List Token} (inner : ∀ token ∈ read, token.kind ≠ .eof)
    (rest : List Token) : beforeEof (read ++ rest) = read ++ beforeEof rest := by
  unfold beforeEof
  apply List.takeWhile_append_of_pos
  intro token member
  simp [isEof, inner token member]

theorem beforeEof_of_inner {tokens : List Token} (inner : ∀ token ∈ tokens, token.kind ≠ .eof) :
    beforeEof tokens = tokens := by
  have whole := beforeEof_append inner []
  rw [List.append_nil] at whole
  rw [whole]
  exact List.append_nil tokens

theorem beforeEof_of_first {rest : List Token} (ends : (first rest).kind = .eof) :
    beforeEof rest = [] := by
  cases rest with
  | nil => rfl
  | cons token rest =>
    have stop : token.isEof = true := isEof_iff.mpr ends
    simp [beforeEof, stop]

theorem exists_beforeEof_append (tokens : List Token) :
    ∃ rest, tokens = beforeEof tokens ++ rest ∧ (first rest).kind = .eof := by
  refine ⟨tokens.dropWhile fun token => !token.isEof, List.takeWhile_append_dropWhile.symm, ?_⟩
  have stop := List.head?_dropWhile_not (fun token : Token => !token.isEof) tokens
  cases rest : tokens.dropWhile fun token => !token.isEof with
  | nil => rfl
  | cons token behind =>
    rw [rest] at stop
    simp only [List.head?_cons, Bool.not_eq_false'] at stop
    exact isEof_iff.mp stop

end Token

namespace Program

open Rule

def statements : Rule Node :=
  Rule.statements (some maxNesting) .eof

theorem parseWithin_of_ok {limit : Option Nat} {tokens : List Token} {node : Node} {after : State}
    (ran : (Rule.statements limit .eof).run (State.start tokens) = .ok node after) :
    parseWithin limit tokens =
      ⟨.ok node, (Event.parsed node.children.length :: after.log).reverse⟩ := by
  unfold parseWithin
  have ended : Rule.statements limit .eof (State.start tokens) = _ := ran
  rw [ended]

theorem parseWithin_of_error {limit : Option Nat} {tokens : List Token} {error : SyntaxError}
    {after : State}
    (ran : (Rule.statements limit .eof).run (State.start tokens) = .error error after) :
    parseWithin limit tokens = ⟨.error error, (Event.rejected error :: after.log).reverse⟩ := by
  unfold parseWithin
  have ended : Rule.statements limit .eof (State.start tokens) = _ := ran
  rw [ended]

theorem parse_of_ok {tokens : List Token} {node : Node} {after : State}
    (ran : statements.run (State.start tokens) = .ok node after) : parse tokens = .ok node := by
  rw [parse, run, parseWithin_of_ok ran]

theorem parse_of_error {tokens : List Token} {error : SyntaxError} {after : State}
    (ran : statements.run (State.start tokens) = .error error after) :
    parse tokens = .error error := by
  rw [parse, run, parseWithin_of_error ran]

theorem reads_program (limit : Option Nat) (tokens : List Token) :
    Reads (.block limit 0) (Rule.statements limit .eof) (State.start tokens) :=
  reads_statements limit .eof (State.start tokens)

theorem wellFormed_of_block {node : Node} {read : List Token}
    (block : Block (some maxNesting) 0 node read) :
    node.WellFormed ∧ node.nesting ≤ maxNesting ∧ Written node read := by
  obtain ⟨body, rfl, all, written⟩ := block
  refine ⟨⟨body, rfl, fun inner member => (all inner member).1⟩, ?_, written⟩
  rw [Node.nesting_statements, Node.nestingAll_le_iff]
  intro inner member
  have le := (all inner member).2 (within_zero _) maxNesting rfl
  omega

/-- The source of a tree is parsed as that tree, whatever stands behind an `eof`. -/
theorem parse_of_written {node : Node} (formed : node.WellFormed)
    (fits : node.nesting ≤ maxNesting) {read : List Token} (written : Written node read)
    {rest : List Token} (ends : (Token.first rest).kind = .eof) :
    parse (read ++ rest) = .ok node := by
  obtain ⟨body, rfl, all⟩ := formed
  rw [Node.nesting_statements, Node.nestingAll_le_iff] at fits
  have each : ∀ inner ∈ body, ∀ word rest, Written inner word →
      Yields (statement (some maxNesting) (Rule.statements (some maxNesting) .rbrace)) 0
        (word ++ rest) inner rest := by
    intro inner member word rest written
    apply yields_statement (all inner member) _ written rest
    intro bound member
    cases member
    have le := fits inner member
    omega
  have yields := yields_statementsBehind (.inr rfl) all each [] written (.inr ends)
  obtain ⟨position, log, ran⟩ := yields 0 []
  exact parse_of_ok ran

theorem beforeEof_of_acts {limit : Option Nat} {tokens rest : List Token} {effect : Effect Node}
    {node : Node} (acts : Acts (Rule.statements limit .eof) (State.start tokens) effect rest)
    (done : effect.result = .ok node) : Token.beforeEof tokens = effect.read := by
  have ran := acts.run
  rw [Effect.outcome_ok done] at ran
  have stop : (Token.first rest).kind = .eof := by
    rcases statements_stops ran with ends | ends
    · exact ends
    · exact ends
  have split : tokens = effect.read ++ rest := acts.ahead
  rw [split, Token.beforeEof_append acts.inner, Token.beforeEof_of_first stop, List.append_nil]

theorem block_of_parseWithin_ok {limit : Option Nat} {tokens : List Token} {node : Node}
    (accepted : (parseWithin limit tokens).result = .ok node) :
    Block limit 0 node (Token.beforeEof tokens) := by
  obtain ⟨effect, rest, acts, meets⟩ := reads_program limit tokens
  cases meets with
  | error refused other repair told =>
    rw [parseWithin_of_error acts.run] at accepted
    cases accepted
  | ok block told ends =>
    rw [parseWithin_of_ok acts.run] at accepted
    cases accepted
    rw [beforeEof_of_acts acts rfl]
    exact block

theorem block_of_parse_ok {tokens : List Token} {node : Node} (accepted : parse tokens = .ok node) :
    Block (some maxNesting) 0 node (Token.beforeEof tokens) :=
  block_of_parseWithin_ok accepted

/-- A parse that fails leaves the tokens from the error on, whatever the limit, and those in front
tell how many blocks are open. -/
theorem exists_run_of_parseWithin_error {limit : Option Nat} {tokens : List Token}
    {error : SyntaxError}
    (rejected : (parseWithin limit tokens).result = .error error) :
    ∃ after, (Rule.statements limit .eof).run (State.start tokens) = .error error after ∧
      after.position = error.position ∧ after.ahead = tokens.drop error.position ∧
      Site limit 0 error.reason (tokens.take error.position)
        (tokens.getD error.position Token.eof) := by
  obtain ⟨effect, rest, acts, meets⟩ := reads_program limit tokens
  have split : tokens = effect.read ++ rest := acts.ahead
  cases meets with
  | ok block told ends =>
    rw [parseWithin_of_ok acts.run] at rejected
    cases rejected
  | @error read begun reason site other repair told =>
    rw [parseWithin_of_error acts.run] at rejected
    cases rejected
    have position : (State.start tokens).position + read.length = read.length := Nat.zero_add _
    refine ⟨_, acts.run, rfl, ?_, ?_⟩
    · rw [position, split, List.drop_left]
      rfl
    · rw [position, ← Token.first_drop, split, List.drop_left, List.take_left]
      exact site

/-- Where the tokens are refused. Those read can be completed behind any token of the kind asked
for, and only the next one decides that they are refused as they stand. -/
structure Refused (tokens : List Token) (error : SyntaxError) (read rest : List Token) : Prop where
  split : tokens = read ++ rest
  inner : ∀ token ∈ read, token.kind ≠ .eof
  position : error.position = read.length
  found : error.found = (Token.first rest).text
  other : (Token.first rest).kind ≠ error.reason.remedy
  repair : ∀ token : Token, token.kind = error.reason.remedy →
    ∃ more node, parse (read ++ token :: more) = .ok node
  again : ∀ more, Token.first more = Token.first rest → parse (read ++ more) = .error error

theorem refused_of_parse_error {tokens : List Token} {error : SyntaxError}
    (rejected : parse tokens = .error error) : ∃ read rest, Refused tokens error read rest := by
  obtain ⟨effect, rest, acts, meets⟩ := reads_program (some maxNesting) tokens
  cases meets with
  | ok block told ends =>
    rw [parse_of_ok acts.run] at rejected
    cases rejected
  | @error read begun reason site other repair told =>
    rw [parse_of_error acts.run] at rejected
    cases rejected
    refine ⟨read, rest, acts.ahead, acts.inner, Nat.zero_add _, rfl, other, ?_, ?_⟩
    · intro token kind
      obtain ⟨more, node, block⟩ := repair token kind
      obtain ⟨formed, fits, written⟩ := wellFormed_of_block block
      have accepted : parse ((read ++ token :: more) ++ []) = .ok node :=
        parse_of_written formed fits written rfl
      rw [List.append_nil] at accepted
      exact ⟨more, node, accepted⟩
    · intro more same
      have replayed := acts.again (State.start (read ++ more)) more rfl rfl same
      have ran := parse_of_error replayed
      rw [same] at ran
      exact ran

end Program
end StatementParser
