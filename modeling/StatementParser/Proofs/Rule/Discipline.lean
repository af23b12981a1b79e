import StatementParser.Proofs.Rule.Watched

/-!
What every rule of the grammar keeps. It stays among the tokens it was started at, never goes back
and never goes over an `eof`, and it ends as deep as it began, also where it fails. A success has
moved on, and a failure stands where the error says.
-/
namespace StatementParser

/-- The state stands in front of one of the tokens, or behind the last. -/
structure State.Among (tokens : List Token) (state : State) : Prop where
  within : state.position ≤ tokens.length
  ahead : state.ahead = tokens.drop state.position

namespace Rule

open Node (Written)

/-- What is true of the state behind a rule, however the rule ended. -/
structure Kept (tokens : List Token) (before after : State) : Prop where
  among : after.Among tokens
  depth : after.depth = before.depth
  forward : before.position ≤ after.position
  inner : ∀ index token, before.position ≤ index → index < after.position →
    tokens[index]? = some token → token.kind ≠ .eof

variable {α : Type} {tokens : List Token} {state : State}

theorem kept_of_acts {rule : Rule α} {effect : Effect α} {rest : List Token}
    (among : state.Among tokens) (acts : Acts rule state effect rest) :
    Kept tokens state (effect.after state rest) := by
  have split : tokens.drop state.position = effect.read ++ rest := by
    rw [← among.ahead, acts.ahead]
  refine ⟨⟨?_, ?_⟩, rfl, Nat.le_add_right _ _, ?_⟩
  · have within := among.within
    have lengths := congrArg List.length split
    rw [List.length_drop, List.length_append] at lengths
    change state.position + effect.read.length ≤ tokens.length
    omega
  · change rest = tokens.drop (state.position + effect.read.length)
    rw [← List.drop_drop, split, List.drop_left]
  · intro index token behind before found
    change index < state.position + effect.read.length at before
    have place : (effect.read ++ rest)[index - state.position]? = some token := by
      rw [← split, List.getElem?_drop, Nat.add_sub_cancel' behind, found]
    rw [List.getElem?_append_left (by omega)] at place
    exact acts.inner token (List.mem_of_getElem? place)

/-- The rule yields a node and then ends as told, or it fails where the error says. -/
def Disciplined (tokens : List Token) (rule : Rule Node) (state : State) (ends : State → Prop) :
    Prop :=
  (∃ node after, rule.run state = .ok node after ∧ Kept tokens state after ∧ ends after) ∨
    ∃ error after, rule.run state = .error error after ∧ Kept tokens state after ∧
      error.position = after.position

theorem disciplined_of_reads {task : Task Node} {rule : Rule Node} {ends : State → Prop}
    (among : state.Among tokens) (reads : Reads task rule state)
    (stops : ∀ node read after, task.yields node read → rule.run state = .ok node after →
      Kept tokens state after → after.position = state.position + read.length → ends after) :
    Disciplined tokens rule state ends := by
  obtain ⟨effect, rest, acts, meets⟩ := reads
  have kept := kept_of_acts among acts
  have ran := acts.run
  cases meets with
  | ok done told last => exact .inl ⟨_, _, ran, kept, stops _ _ _ done ran kept rfl⟩
  | error refused other repair told => exact .inr ⟨_, _, ran, kept, rfl⟩

theorem disciplined_of_filled {task : Task Node} {rule : Rule Node} (among : state.Among tokens)
    (reads : Reads task rule state)
    (filled : ∀ node read, task.yields node read → Written node read ∧ 0 < node.tokens.length) :
    Disciplined tokens rule state fun after => state.position < after.position := by
  apply disciplined_of_reads among reads
  intro node read after met _ _ position
  obtain ⟨written, positive⟩ := filled node read met
  rw [← written, List.length_map] at positive
  omega

end Rule

open Program (maxNesting)

/-- What the rules of the grammar are for; a list of statements also by the kind of token it is read
up to. -/
inductive Nonterminal where
  | statements (close : Kind)
  | statement
  | declaration
  | assignment
  | conditional
  | condition
  | expression
  | term
  deriving DecidableEq, Repr

namespace Nonterminal

def rule : Nonterminal → Rule Node
  | .statements close => Rule.statements (some maxNesting) close
  | .statement => Rule.statement (some maxNesting) (Rule.statements (some maxNesting) .rbrace)
  | .declaration => Rule.declaration
  | .assignment => Rule.assignment
  | .conditional => Rule.conditional (some maxNesting) (Rule.statements (some maxNesting) .rbrace)
  | .condition => Rule.condition
  | .expression => Rule.expression
  | .term => Rule.term

def first? : Nonterminal → Option Kind
  | .declaration => some .intWord
  | .assignment => some .identifier
  | .conditional => some .ifWord
  | _ => none

/-- The rule with all its statements and blocks watched. -/
def watched (stray : Rule Node) : Nonterminal → Rule Node
  | .statements close => Rule.watchedStatements stray close
  | .statement =>
    Rule.statement (some maxNesting) (Rule.watch stray (Rule.watchedStatements stray .rbrace))
  | .conditional =>
    Rule.conditional (some maxNesting) (Rule.watch stray (Rule.watchedStatements stray .rbrace))
  | other => other.rule

/-- How a success ends: statements in front of a token of the closing kind or an `eof`, or behind
all tokens, and everything else further on than it began. -/
def Ends (tokens : List Token) (before : State) : Nonterminal → State → Prop
  | .statements close, after =>
    after.position = tokens.length ∨
      ∃ token, tokens[after.position]? = some token ∧ (token.kind = close ∨ token.kind = .eof)
  | _, after => before.position < after.position

end Nonterminal

namespace Rule

open Node (Written)

variable {tokens : List Token} {state : State}

theorem ends_of_stops {close : Kind} {after : State} (among : after.Among tokens)
    (stops : after.current.kind = close ∨ after.current.kind = .eof) :
    Nonterminal.Ends tokens state (.statements close) after := by
  have here : tokens[after.position]? = after.ahead.head? := by rw [among.ahead, List.head?_drop]
  cases rest : after.ahead with
  | nil =>
    left
    have short := congrArg List.length (among.ahead.symm.trans rest)
    have within := among.within
    rw [List.length_drop, List.length_nil] at short
    omega
  | cons token behind =>
    right
    rw [State.current, rest] at stops
    rw [rest] at here
    exact ⟨token, here, stops⟩

theorem kept_of_announced (among : state.Among tokens) (log : List Event) :
    Kept tokens state { state with log := log } where
  among := ⟨among.within, among.ahead⟩
  depth := rfl
  forward := Nat.le_refl _
  inner _ _ behind before _ := absurd behind (Nat.not_le.mpr before)

theorem disciplined_nonterminal (nonterminal : Nonterminal) (among : state.Among tokens)
    (entered : ∀ kind ∈ nonterminal.first?, state.current.kind = kind) :
    Disciplined tokens nonterminal.rule state (nonterminal.Ends tokens state) := by
  cases nonterminal with
  | statements close =>
    apply disciplined_of_reads among (reads_statements _ close state)
    intro node read after _ ran kept _
    exact ends_of_stops kept.among (statements_stops ran)
  | statement =>
    by_cases ended : state.current.kind = .eof
    · exact .inr ⟨_, _, run_statement_of_eof ended, kept_of_announced among _, rfl⟩
    · apply disciplined_of_filled among (reads_statement_of_statements _ ended)
      exact fun node read met => ⟨met.2, met.1.1.tokens_pos⟩
  | declaration =>
    apply disciplined_of_filled among (reads_declaration none 0 (entered _ rfl))
    exact fun node read met => ⟨met.2, met.1.1.tokens_pos⟩
  | assignment =>
    apply disciplined_of_filled among (reads_assignment none 0 (entered _ rfl))
    exact fun node read met => ⟨met.2, met.1.1.tokens_pos⟩
  | conditional =>
    apply disciplined_of_filled among
      (reads_conditional (entered _ rfl) fun inner _ _ => readsBlock_statements _ inner)
    exact fun node read met => ⟨met.2, met.1.1.tokens_pos⟩
  | condition =>
    apply disciplined_of_filled among (reads_condition state)
    exact fun node read met => ⟨met.2, met.1.tokens_pos⟩
  | expression =>
    apply disciplined_of_filled among (reads_expression state)
    exact fun node read met => ⟨met.2, met.1.tokens_pos⟩
  | term =>
    apply disciplined_of_filled among (reads_term state)
    exact fun node read met => ⟨met.2, met.1.tokens_pos⟩

theorem run_watched (nonterminal : Nonterminal) (stray : Rule Node)
    (shallow : state.depth ≤ maxNesting)
    (entered : ∀ kind ∈ nonterminal.first?, state.current.kind = kind) :
    (nonterminal.watched stray).run state = nonterminal.rule.run state := by
  cases nonterminal with
  | statements close => exact run_watchedStatements stray shallow close
  | statement =>
    apply statement_congr
    intro free inner below _
    exact run_watched_block stray shallow free below
  | conditional =>
    apply conditional_congr (entered _ rfl)
    intro free inner below _
    exact run_watched_block stray shallow free below
  | _ => rfl

end Rule

namespace Nonterminal

open Rule (Kept Disciplined)

/-- A rule that is entered as the rules around it enter it, no deeper than the limit, ends among the
same tokens, no further back and as deep as it began. It goes over no `eof`, moves on where it
succeeds, and stands where the error says where it fails. None of its loops ends for want of rounds,
and no block in it begins deeper than the limit or ends at depth zero, since to stray at these
places makes no difference. -/
theorem run_disciplined (nonterminal : Nonterminal) {tokens : List Token} {state : State}
    (among : state.Among tokens) (shallow : state.depth ≤ maxNesting)
    (entered : ∀ kind ∈ nonterminal.first?, state.current.kind = kind) :
    Disciplined tokens nonterminal.rule state (nonterminal.Ends tokens state) ∧
      ∀ stray : Rule Node, Rule.watchedExpression stray = Rule.expression ∧
        (nonterminal.watched stray).run state = nonterminal.rule.run state := by
  refine ⟨Rule.disciplined_nonterminal nonterminal among entered, ?_⟩
  intro stray
  exact ⟨Rule.watchedExpression_eq stray, Rule.run_watched nonterminal stray shallow entered⟩

theorem run_disciplined_too_deep :
    let tokens : List Token :=
      [⟨.rbrace, "\x7d"⟩, ⟨.ifWord, "if"⟩, ⟨.lparen, "("⟩, ⟨.identifier, "a"⟩, ⟨.rparen, ")"⟩,
        ⟨.lbrace, "\x7b"⟩, ⟨.ifWord, "if"⟩]
    let state : State := ⟨1, tokens.drop 1, 255, []⟩
    state.Among tokens ∧ state.depth ≤ maxNesting ∧ state.current.kind = .ifWord ∧
      ∃ after, Nonterminal.conditional.rule.run state = .error ⟨.tooDeep, "if", 6⟩ after ∧
        Kept tokens state after ∧ after.position = 6 ∧ after.depth = 255 := by
  intro tokens state
  have among : state.Among tokens := ⟨by decide, rfl⟩
  have shallow : state.depth ≤ maxNesting := by decide
  have entered : state.current.kind = .ifWord := rfl
  have refused : Nonterminal.conditional.rule.run state = .error ⟨.tooDeep, "if", 6⟩
      ⟨6, [⟨.ifWord, "if"⟩], 255, [.statement 6 .ifWord]⟩ := rfl
  have discipline := (run_disciplined .conditional among shallow fun kind same => by
    cases same
    exact entered).1
  rcases discipline with ⟨node, after, ran, -⟩ | ⟨error, after, ran, kept, position⟩
  · rw [refused] at ran
    cases ran
  · rw [refused] at ran
    cases ran
    exact ⟨among, shallow, entered, _, refused, kept, rfl, rfl⟩

end Nonterminal
end StatementParser
