import StatementParser.Proofs.Rule.Expression

/-!
An expression is read as far as terms and signs follow each other in turn, beginning with a term.
Where this run ends in a term, all of it is joined to one tree that leans to the left; where it does
not, a term is missing right behind it.
-/
namespace StatementParser

namespace Token

def isTerm (token : Token) : Bool :=
  token.kind = .number ∨ token.kind = .identifier

def isSign (token : Token) : Bool :=
  token.kind = .plus ∨ token.kind = .minus

def leaf (word : Token) : Node :=
  .leaf (if word.kind = .number then .number else .identifier) word.text

def join (sign : Token) (left right : Node) : Node :=
  .binary (if sign.kind = .plus then .plus else .minus) sign.text left right

/-- The tokens pass the two tests in turn, the first token the first one. -/
def InTurn (test other : Token → Bool) : List Token → Prop
  | [] => True
  | token :: rest => test token = true ∧ InTurn other test rest

/-- The longest part in front of the tokens in which terms and signs follow each other in turn,
beginning with a term. -/
structure Longest (run tokens : List Token) : Prop where
  front : run <+: tokens
  turns : InTurn isTerm isSign run
  most : ∀ other, other <+: tokens → InTurn isTerm isSign other → other.length ≤ run.length

def endsInTerm (run : List Token) : Bool :=
  run.getLast?.any isTerm

@[simp] theorem endsInTerm_singleton (token : Token) : endsInTerm [token] = token.isTerm := rfl

@[simp] theorem endsInTerm_cons_cons (token next : Token) (rest : List Token) :
    endsInTerm (token :: next :: rest) = endsInTerm (next :: rest) := rfl

def steps : List Token → List (Token × Token)
  | [] => []
  | [_] => []
  | sign :: word :: rest => (sign, word) :: steps rest

/-- What stands on the left with all further terms joined to it, one after the other. -/
def joined (left : Node) (more : List Token) : Node :=
  (steps more).foldl (fun tree step => step.1.join tree step.2.leaf) left

def tree (run : List Token) : Node :=
  joined (first run).leaf run.tail

variable {test other : Token → Bool} {run more rest : List Token}

theorem InTurn.of_append (turns : InTurn test other (run ++ more)) : InTurn test other run := by
  induction run generalizing test other with
  | nil => trivial
  | cons token run ih => exact ⟨turns.1, ih turns.2⟩

/-- In front of any tokens there is a run that the next token does not continue. -/
theorem exists_blocked_run (inner : test eof = false) (otherInner : other eof = false)
    (tokens : List Token) :
    ∃ run rest, tokens = run ++ rest ∧ InTurn test other run ∧
      ¬InTurn test other (run ++ [first rest]) := by
  induction tokens generalizing test other with
  | nil =>
    refine ⟨[], [], rfl, trivial, ?_⟩
    intro turns
    exact Bool.false_ne_true (inner.symm.trans turns.1)
  | cons token tokens ih =>
    by_cases passes : test token = true
    · obtain ⟨run, rest, split, turns, blocked⟩ := ih otherInner inner
      refine ⟨token :: run, rest, by rw [split, List.cons_append], ⟨passes, turns⟩, ?_⟩
      exact fun longer => blocked longer.2
    · exact ⟨[], token :: tokens, rfl, trivial, fun turns => passes turns.1⟩

theorem longest_of_blocked (turns : InTurn isTerm isSign run)
    (blocked : ¬InTurn isTerm isSign (run ++ [first rest])) : Longest run (run ++ rest) where
  front := List.prefix_append run rest
  turns := turns
  most := by
    intro other front otherTurns
    rcases List.prefix_or_prefix_of_prefix front (List.prefix_append run rest) with shorter | longer
    · exact shorter.length_le
    · obtain ⟨more, rfl⟩ := longer
      cases more with
      | nil => exact Nat.le_of_eq (congrArg List.length (List.append_nil run))
      | cons token more =>
        obtain ⟨behind, rfl⟩ := (List.prefix_append_right_inj run).mp front
        rw [List.append_cons] at otherTurns
        exact absurd otherTurns.of_append blocked

theorem leafKind?_of_isTerm {word : Token} (single : word.isTerm = true) :
    Rule.leafKind? word.kind = some word.leaf.kind := by
  obtain ⟨sort, text⟩ := word
  cases sort with
  | number => rfl
  | identifier => rfl
  | _ => cases single

theorem leafKind?_of_not_isTerm {word : Token} (other : word.isTerm = false) :
    Rule.leafKind? word.kind = none := by
  obtain ⟨sort, text⟩ := word
  cases sort with
  | number => cases other
  | identifier => cases other
  | _ => rfl

theorem operatorKind?_of_isSign {sign : Token} (joins : sign.isSign = true) (left right : Node) :
    Rule.operatorKind? sign.kind = some (sign.join left right).kind := by
  obtain ⟨sort, text⟩ := sign
  cases sort with
  | plus => rfl
  | minus => rfl
  | _ => cases joins

theorem operatorKind?_of_not_isSign {sign : Token} (other : sign.isSign = false) :
    Rule.operatorKind? sign.kind = none := by
  obtain ⟨sort, text⟩ := sign
  cases sort with
  | plus => cases other
  | minus => cases other
  | _ => rfl

theorem not_isTerm_of_isSign {sign : Token} (joins : sign.isSign = true) : sign.isTerm = false := by
  obtain ⟨sort, text⟩ := sign
  cases sort with
  | plus => rfl
  | minus => rfl
  | _ => cases joins

end Token

namespace Rule

open Token (InTurn isTerm isSign endsInTerm joined tree)

variable {state : State} {token word sign : Token} {left : Node} {run rest : List Token}

theorem current_of_ahead (split : state.ahead = token :: rest) : state.current = token := by
  rw [State.current, split]
  rfl

theorem acts_take_of_ahead (split : state.ahead = token :: rest) (inner : token.kind ≠ .eof) :
    Acts take state ⟨[token], [], .ok token⟩ rest := by
  obtain ⟨position, ahead, depth, log⟩ := state
  cases split
  exact acts_take inner

theorem acts_term_of_isTerm (split : state.ahead = word :: rest) (single : word.isTerm = true) :
    Acts term state ⟨[word], [], .ok word.leaf⟩ rest := by
  have found := Token.leafKind?_of_isTerm single
  have taken := acts_take_of_ahead split (kind_ne_eof_of_leafKind? found)
  apply acts_current
  rw [current_of_ahead split, found]
  change Acts _ state (Effect.andThen ⟨[word], [], .ok word⟩ ⟨[], [], .ok word.leaf⟩) _
  exact acts_bind taken rfl (acts_pure _ _)

theorem acts_term_of_not_isTerm (other : (Token.first state.ahead).isTerm = false) :
    Acts term state ⟨[], [], .error .unexpected⟩ state.ahead := by
  have absent : leafKind? state.current.kind = none := Token.leafKind?_of_not_isTerm other
  apply acts_current
  rw [absent]
  exact acts_refuse .unexpected state

theorem acts_terms_of_isSign (split : state.ahead = sign :: rest) (joins : sign.isSign = true)
    {later : Effect Node} {behind : List Token}
    (goesOn : Acts (term >>= fun right => terms (sign.join left right))
      (Effect.after ⟨[sign], [], .ok sign⟩ state rest) later behind) :
    Acts (terms left) state (Effect.andThen ⟨[sign], [], .ok sign⟩ later) behind := by
  have found := Token.operatorKind?_of_isSign joins left left
  have taken := acts_take_of_ahead split (kind_ne_eof_of_operatorKind? found)
  rw [terms_eq]
  apply acts_current
  rw [current_of_ahead split, found]
  exact acts_bind taken rfl goesOn

theorem acts_terms_of_not_isSign (left : Node) (other : (Token.first state.ahead).isSign = false) :
    Acts (terms left) state ⟨[], [], .ok left⟩ state.ahead := by
  have absent : operatorKind? state.current.kind = none := Token.operatorKind?_of_not_isSign other
  rw [terms_eq]
  apply acts_current
  rw [absent]
  exact acts_pure left state

/-- Behind a term the run goes on with a sign. It is read to its end and joined to what stands on
the left, unless it ends in a sign. -/
theorem acts_terms (last : word.isTerm = true) (left : Node) (split : state.ahead = run ++ rest)
    (turns : InTurn isSign isTerm run)
    (blocked : ¬InTurn isSign isTerm (run ++ [Token.first rest])) :
    Acts (terms left) state
      ⟨run, [], if endsInTerm (word :: run) then .ok (joined left run) else .error .unexpected⟩
      rest := by
  -- A sign and its term at a time; the term before them tells whether the run may end here.
  induction run using Token.steps.induct generalizing word left state with
  | case1 =>
    obtain rfl : state.ahead = rest := split
    have stop : isSign (Token.first state.ahead) = false :=
      eq_false_of_ne_true fun joins => blocked ⟨joins, trivial⟩
    rw [Token.endsInTerm_singleton, if_pos last]
    exact acts_terms_of_not_isSign left stop
  | case2 sign =>
    have missing : isTerm (Token.first rest) = false :=
      eq_false_of_ne_true fun single => blocked ⟨turns.1, single, trivial⟩
    rw [Token.endsInTerm_cons_cons, Token.endsInTerm_singleton, Token.not_isTerm_of_isSign turns.1]
    exact acts_terms_of_isSign split turns.1 (acts_bind_error (acts_term_of_not_isTerm missing) rfl)
  | case3 sign next run ih =>
    obtain ⟨joins, single, turns⟩ := turns
    have stops : ¬InTurn isSign isTerm (run ++ [Token.first rest]) :=
      fun longer => blocked ⟨joins, single, longer⟩
    have goesOn (after : State) (behind : after.ahead = run ++ rest) :=
      ih single (sign.join left next.leaf) behind turns stops
    rw [Token.endsInTerm_cons_cons, Token.endsInTerm_cons_cons]
    exact acts_terms_of_isSign split joins
      (acts_bind (acts_term_of_isTerm rfl single) rfl (goesOn _ rfl))

theorem acts_expression (split : state.ahead = run ++ rest) (turns : InTurn isTerm isSign run)
    (blocked : ¬InTurn isTerm isSign (run ++ [Token.first rest])) :
    Acts expression state
      ⟨run, [], if endsInTerm run then .ok (tree run) else .error .unexpected⟩ rest := by
  rw [expression_eq]
  cases run with
  | nil =>
    obtain rfl : state.ahead = rest := split
    have missing : isTerm (Token.first state.ahead) = false :=
      eq_false_of_ne_true fun single => blocked ⟨single, trivial⟩
    exact acts_bind_error (acts_term_of_not_isTerm missing) rfl
  | cons word more =>
    obtain ⟨single, turns⟩ := turns
    have stops : ¬InTurn isSign isTerm (more ++ [Token.first rest]) :=
      fun longer => blocked ⟨single, longer⟩
    have goesOn (after : State) (behind : after.ahead = more ++ rest) :=
      acts_terms single word.leaf behind turns stops
    exact acts_bind (acts_term_of_isTerm split single) rfl (goesOn _ rfl)

/-- An expression is read along the longest run of terms and signs in turn, and reading stops right
behind it. If the run ends in a term, the tree of the run is yielded. If it ends in a sign or is
empty, the token behind it is refused. -/
theorem run_expression (state : State) :
    ∃ run rest, state.ahead = run ++ rest ∧ Token.Longest run state.ahead ∧
      expression.run state =
        let after : State := ⟨state.position + run.length, rest, state.depth, state.log⟩
        if endsInTerm run then .ok (tree run) after
        else .error ⟨.unexpected, after.current.text, after.position⟩ after := by
  have noTerm : isTerm Token.eof = false := rfl
  have noSign : isSign Token.eof = false := rfl
  obtain ⟨run, rest, split, turns, blocked⟩ := Token.exists_blocked_run noTerm noSign state.ahead
  have longest := Token.longest_of_blocked turns blocked
  rw [← split] at longest
  have acts := acts_expression split turns blocked
  refine ⟨run, rest, split, longest, ?_⟩
  rw [acts.run]
  by_cases ends : endsInTerm run = true
  · rw [Effect.outcome_ok (if_pos ends)]
    exact (if_pos ends).symm
  · rw [Effect.outcome_error (if_neg ends)]
    exact (if_neg ends).symm

example :
    expression.run ⟨2, [⟨.identifier, "a"⟩, ⟨.minus, "-"⟩, ⟨.number, "1"⟩, ⟨.plus, "+"⟩,
        ⟨.identifier, "b"⟩, ⟨.semicolon, ";"⟩], 0, []⟩ =
      .ok (.binary .plus "+" (.binary .minus "-" (.identifier "a") (.number "1")) (.identifier "b"))
        ⟨7, [⟨.semicolon, ";"⟩], 0, []⟩ := rfl

end Rule
end StatementParser
