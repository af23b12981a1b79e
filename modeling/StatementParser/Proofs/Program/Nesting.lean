import Mathlib.Control.Monad.Basic
import StatementParser.Proofs.Program.Diagnostics
import StatementParser.Proofs.Rule.Limit

/-!
The limit on nesting is all that sets the parser apart from one without it. They agree on every
program and on every other failure; and where the limit is met, the parser without it comes further,
to a program that is nested too deeply or to a failure behind.
-/
namespace StatementParser

namespace Node

/-- From the root the node is reached through so many conditionals, itself not counted. -/
inductive Beneath : Nat → Node → Node → Prop where
  | root (node : Node) : Beneath 0 node node
  | child {above : Nat} {root child node : Node} (member : child ∈ root.children)
      (below : Beneath above child node) :
      Beneath (above + if root.kind = .conditional then 1 else 0) root node

theorem exists_mem_nesting_eq {body : List Node} (positive : 0 < nestingAll body) :
    ∃ node ∈ body, node.nesting = nestingAll body := by
  induction body with
  | nil => exact absurd positive (Nat.lt_irrefl 0)
  | cons node body ih =>
    rw [nestingAll] at positive ⊢
    by_cases deeper : node.nesting < nestingAll body
    · have inner : 0 < nestingAll body := by omega
      obtain ⟨other, member, same⟩ := ih inner
      exact ⟨other, List.mem_cons_of_mem node member, by omega⟩
    · exact ⟨node, List.mem_cons_self, by omega⟩

theorem exists_beneath : ∀ node : Node, 0 < node.nesting →
    ∃ inner above, inner.kind = .conditional ∧ node.nesting = above + 1 ∧
      Beneath above node inner
  | ⟨kind, text, children⟩, positive => by
    rw [Node.nesting] at positive ⊢
    by_cases further : 0 < nestingAll children
    · obtain ⟨child, member, same⟩ := exists_mem_nesting_eq further
      obtain ⟨inner, above, conditional, count, below⟩ := exists_beneath child (by omega)
      refine ⟨inner, _, conditional, ?_, .child member below⟩
      dsimp only
      omega
    · by_cases last : kind = .conditional
      · refine ⟨_, 0, last, ?_, .root _⟩
        rw [if_pos last]
        omega
      · rw [if_neg last] at positive
        omega
termination_by node => sizeOf node
decreasing_by
  have smaller := List.sizeOf_lt_of_mem member
  simp only [Node.mk.sizeOf_spec]
  omega

end Node

namespace Program

open Rule
open Node (Beneath)

variable {tokens : List Token} {error : SyntaxError}

theorem reason_of_parseWithin_none (rejected : (parseWithin none tokens).result = .error error) :
    error.reason ≠ .tooDeep ∧
      error.position = reached ((Rule.statements none .eof).run (State.start tokens)) := by
  obtain ⟨after, ran, position, -, site⟩ := exists_run_of_parseWithin_error rejected
  rw [ran]
  refine ⟨?_, position.symm⟩
  intro deep
  obtain ⟨-, bound, limit, -⟩ := site.full deep
  cases limit

/-- The limit is met, or it makes no difference. -/
theorem run_eq_or_exceeds (tokens : List Token) :
    run tokens = parseWithin none tokens ∨
      ∃ error, parse tokens = .error error ∧ error.reason = .tooDeep ∧
        error.position < reached ((Rule.statements none .eof).run (State.start tokens)) := by
  rcases relaxes_statements (some maxNesting) .eof (State.start tokens) with
    same | ⟨error, after, failed, deep, further⟩
  · have alike : Rule.statements none .eof (State.start tokens) =
        Rule.statements (some maxNesting) .eof (State.start tokens) := same
    refine .inl ?_
    rw [run, parseWithin, parseWithin, alike]
  · exact .inr ⟨error, parse_of_error failed, deep, further⟩

theorem lt_nesting_of_rejected {node : Node} (accepted : (parseWithin none tokens).result = .ok node)
    (rejected : parse tokens = .error error) : maxNesting < node.nesting := by
  obtain ⟨body, rfl, all, written⟩ := block_of_parseWithin_ok accepted
  obtain ⟨rest, split, ends⟩ := Token.exists_beforeEof_append tokens
  have formed : Node.WellFormed (.statements body) :=
    ⟨body, rfl, fun inner member => (all inner member).1⟩
  apply Nat.lt_of_not_le
  intro fits
  have parsed := parse_of_written formed fits written ends
  rw [← split, rejected] at parsed
  cases parsed

/-- Unless a conditional is too deep, the parser does what it would do without a limit, down to the
events. If one is, it is a conditional at which the parser without a limit goes on: it accepts a
program with a conditional beneath as many others as are allowed, or it fails later. -/
theorem run_eq_unlimited (tokens : List Token) :
    ((∀ error, parse tokens = .error error → error.reason ≠ .tooDeep) →
        run tokens = parseWithin none tokens) ∧
      ∀ error, parse tokens = .error error → error.reason = .tooDeep →
        (tokens.getD error.position Token.eof).kind = .ifWord ∧
          ((∃ tree inner above, (parseWithin none tokens).result = .ok tree ∧
              inner.kind = .conditional ∧ maxNesting ≤ above ∧ Beneath above tree inner) ∨
            ∃ later, (parseWithin none tokens).result = .error later ∧
              error.position < later.position) := by
  constructor
  · intro shallow
    rcases run_eq_or_exceeds tokens with same | ⟨error, rejected, deep, -⟩
    · exact same
    · exact absurd deep (shallow error rejected)
  · intro error rejected deep
    refine ⟨((site_of_parse_error rejected).2.2 deep).1, ?_⟩
    cases outcome : (parseWithin none tokens).result with
    | ok tree =>
      have nested := lt_nesting_of_rejected outcome rejected
      obtain ⟨inner, above, conditional, count, beneath⟩ := Node.exists_beneath tree (by omega)
      exact .inl ⟨tree, inner, above, rfl, conditional, by omega, beneath⟩
    | error later =>
      obtain ⟨other, position⟩ := reason_of_parseWithin_none outcome
      refine .inr ⟨later, rfl, ?_⟩
      rcases run_eq_or_exceeds tokens with same | ⟨early, found, -, further⟩
      · rw [parse, same, outcome] at rejected
        cases rejected
        exact absurd deep other
      · rw [rejected] at found
        cases found
        rw [position]
        exact further

/-- With one block more than allowed left open, the conditional that opens the last of them is
refused, and without a limit the missing brace is. -/
theorem run_eq_unlimited_open_blocks :
    let block : List Token :=
      [⟨.ifWord, "if"⟩, ⟨.lparen, "("⟩, ⟨.identifier, "a"⟩, ⟨.rparen, ")"⟩, ⟨.lbrace, "\x7b"⟩]
    let tokens : List Token := (List.replicate 257 block).flatten
    parse tokens = .error ⟨.tooDeep, "if", 1280⟩ ∧
      (tokens.getD 1280 Token.eof).kind = .ifWord ∧
      ∃ later, (parseWithin none tokens).result = .error later ∧ 1280 < later.position := by
  intro block tokens
  have rejected : parse tokens = .error ⟨.tooDeep, "if", 1280⟩ := by decide +kernel
  have unfinished : (parseWithin none tokens).result.isOk = false := by decide +kernel
  obtain ⟨word, ⟨tree, -, -, accepted, -⟩ | further⟩ :=
    (run_eq_unlimited tokens).2 _ rejected rfl
  · rw [accepted] at unfinished
    cases unfinished
  · exact ⟨rejected, word, further⟩

end Program
end StatementParser
