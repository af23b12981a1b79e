import StatementParser.Proofs.Rule.Reading

/-!
Terms, expressions and conditions are read as trees of their shapes, and every token read stands at
its place in the tree. The loop of a chain carries a list that only bounds its rounds; every bound
that covers the tokens ahead gives the same run, so the chain obeys the equation it would have
without one.
-/
namespace StatementParser

open Node (Leaf Arithmetic Condition Written)

theorem Node.leaf_of_leafKind? {token : Token} {kind : Node.Kind}
    (found : Rule.leafKind? token.kind = some kind) :
    Leaf (leaf kind token.text) ∧ Written (leaf kind token.text) [token] ∧
      token.kind.separates = false := by
  obtain ⟨sort, text⟩ := token
  cases sort with
  | identifier =>
    cases found
    exact ⟨.identifier text, rfl, rfl⟩
  | number =>
    cases found
    exact ⟨.number text, rfl, rfl⟩
  | _ => cases found

theorem Node.arithmetic_of_operatorKind? {token : Token} {kind : Node.Kind}
    (found : Rule.operatorKind? token.kind = some kind) {left right : Node}
    (before : Arithmetic left) (last : Leaf right) :
    Arithmetic (binary kind token.text left right) := by
  obtain ⟨sort, text⟩ := token
  cases sort with
  | plus =>
    cases found
    exact .plus text before last
  | minus =>
    cases found
    exact .minus text before last
  | _ => cases found

namespace Rule

theorem plain_of_operatorKind? {token : Token} {kind : Node.Kind}
    (found : operatorKind? token.kind = some kind) : token.plain = token := by
  obtain ⟨sort, text⟩ := token
  cases sort <;> cases found <;> rfl

theorem separates_of_operatorKind? {token : Token} {kind : Node.Kind}
    (found : operatorKind? token.kind = some kind) : token.kind.separates = false := by
  obtain ⟨sort, text⟩ := token
  cases sort <;> cases found <;> rfl

theorem reads_term (state : State) :
    Reads (.inside (fun node read => Leaf node ∧ Written node read) false) term state := by
  apply reads_current
  split
  next kind found =>
    obtain ⟨single, written, joins⟩ := Node.leaf_of_leafKind? found
    apply reads_bind (reads_take (kind_ne_eof_of_leafKind? found) (.inl rfl) joins)
    intro token read after met _
    obtain ⟨rfl, rfl⟩ := met
    exact reads_pure after ⟨single, written⟩ rfl
  next absent =>
    apply reads_refuse rfl
    · intro same
      rw [same] at absent
      cases absent
    · intro token named
      obtain ⟨kind, text⟩ := token
      cases named
      exact ⟨[], .identifier text, .identifier text, rfl⟩

theorem reads_chain (room : List Token) {left : Node} (before : Arithmetic left) (state : State) :
    Reads (.inside (fun node read =>
      Arithmetic node ∧ left.tokens ++ read.map Token.plain = node.tokens) false)
      (chain room left) state := by
  induction room generalizing left state with
  | nil => exact reads_pure state ⟨before, by simp⟩ rfl
  | cons bound room ih =>
    apply reads_current
    split
    next kind found =>
      apply reads_bind (reads_take (kind_ne_eof_of_operatorKind? found) (.inl rfl)
        (separates_of_operatorKind? found))
      intro operator read after met _
      obtain ⟨rfl, rfl⟩ := met
      apply reads_bind (reads_term after)
      intro right word last met _
      obtain ⟨single, written⟩ := met
      have joined := Node.arithmetic_of_operatorKind? found before single
      refine (ih joined last).mono ?_ (fun _ _ _ plain => plain) rfl rfl
      intro node rest met
      obtain ⟨arithmetic, tokens⟩ := met
      refine ⟨arithmetic, ?_⟩
      rw [← tokens, Node.tokens_binary_of_operatorKind? found, ← written]
      simp [plain_of_operatorKind? found]
    next absent => exact reads_pure state ⟨before, by simp⟩ rfl

theorem current_of_ahead_nil {state : State} (empty : state.ahead = []) :
    state.current = Token.eof := by
  rw [State.current, empty]
  rfl

theorem chain_at_end (room : List Token) (left : Node) {state : State} (empty : state.ahead = []) :
    (chain room left).run state = .ok left state := by
  cases room with
  | nil => rfl
  | cons token room =>
    rw [chain, EStateM.run_bind, run_current, current_of_ahead_nil empty]
    rfl

theorem next_length_lt {state : State} (more : state.current.kind ≠ .eof) :
    state.next.ahead.length < state.ahead.length := by
  unfold State.next
  split
  · next same =>
    rw [State.current, same] at more
    exact absurd rfl more
  · next same => simp [same]

theorem length_le_of_run_term {state after : State} {node : Node}
    (ran : term.run state = .ok node after) : after.ahead.length ≤ state.ahead.length := by
  obtain ⟨read, -, split, -⟩ := (reads_term state).exists_read ran
  rw [split, List.length_append]
  exact Nat.le_add_left _ _

theorem chain_room (left : Node) {room other : List Token} {state : State}
    (enough : state.ahead.length ≤ room.length) (covered : state.ahead.length ≤ other.length) :
    (chain room left).run state = (chain other left).run state := by
  induction room generalizing other left state with
  | nil =>
    have empty : state.ahead = [] := List.eq_nil_of_length_eq_zero (Nat.le_zero.mp enough)
    rw [chain_at_end _ _ empty, chain_at_end _ _ empty]
  | cons token room ih =>
    cases other with
    | nil =>
      have empty : state.ahead = [] := List.eq_nil_of_length_eq_zero (Nat.le_zero.mp covered)
      rw [chain_at_end _ _ empty, chain_at_end _ _ empty]
    | cons token other =>
      rw [chain, chain, EStateM.run_bind, EStateM.run_bind, run_current]
      dsimp only
      split
      next kind sign =>
        have shorter := next_length_lt (kind_ne_eof_of_operatorKind? sign)
        apply bind_congr_of_ok
        intro operator middle taken
        cases taken
        apply bind_congr_of_ok
        intro right after read
        have bound := length_le_of_run_term read
        simp only [List.length_cons] at enough covered
        exact ih _ (by omega) (by omega)
      next => rfl

def terms (left : Node) : Rule Node := do
  let state ← get
  chain state.ahead left

theorem expression_eq : expression = term >>= terms := rfl

theorem terms_eq (left : Node) :
    terms left = (do
      match operatorKind? (← current).kind with
      | some kind =>
        let operator ← take
        let right ← term
        terms (.binary kind operator.text left right)
      | none => pure left) := by
  funext state
  have wider : state.ahead.length ≤ (Token.eof :: state.ahead).length := Nat.le_succ _
  show (chain state.ahead left).run state = EStateM.run _ state
  rw [chain_room left (Nat.le_refl _) wider, chain, EStateM.run_bind, EStateM.run_bind, run_current]
  dsimp only
  cases sign : operatorKind? state.current.kind with
  | none => rfl
  | some kind =>
    have shorter := next_length_lt (kind_ne_eof_of_operatorKind? sign)
    apply bind_congr_of_ok
    intro operator middle taken
    cases taken
    apply bind_congr_of_ok
    intro right after read
    have bound := length_le_of_run_term read
    exact chain_room _ (by omega) (Nat.le_refl _)

theorem reads_terms {left : Node} (before : Arithmetic left) (state : State) :
    Reads (.inside (fun node read =>
      Arithmetic node ∧ left.tokens ++ read.map Token.plain = node.tokens) false)
      (terms left) state :=
  reads_loop (fun _ _ _ => chain_room left) fun room _ => reads_chain room before state

theorem reads_expression (state : State) :
    Reads (.inside (fun node read => Arithmetic node ∧ Written node read) false) expression
      state := by
  rw [expression_eq]
  apply reads_bind (reads_term state)
  intro left word after met _
  obtain ⟨single, written⟩ := met
  refine (reads_terms (.leaf single) after).mono ?_ (fun _ _ _ plain => plain) rfl rfl
  intro node rest met
  obtain ⟨arithmetic, tokens⟩ := met
  refine ⟨arithmetic, ?_⟩
  rw [Written, List.map_append, written, tokens]

theorem reads_condition (state : State) :
    Reads (.inside (fun node read => Condition node ∧ Written node read) false) condition
      state := by
  apply reads_bind (reads_expression state)
  intro left first middle met _
  obtain ⟨before, leftWritten⟩ := met
  apply reads_current
  split
  next same =>
    obtain ⟨sign, split⟩ := Token.exists_text same
    have more : middle.current.kind ≠ .eof := by simp [same]
    apply reads_bind (reads_take more (.inl rfl) (congrArg Kind.separates same))
    intro operator read after met _
    obtain ⟨rfl, rfl⟩ := met
    apply reads_bind (reads_expression after)
    intro right second last met _
    obtain ⟨behind, rightWritten⟩ := met
    refine reads_pure last ?_ rfl
    rw [split]
    exact ⟨.equal sign before behind, by
      simpa using Node.written_equal sign leftWritten rightWritten⟩
  next other =>
    refine reads_pure middle ⟨.value before, ?_⟩ rfl
    rw [List.append_nil]
    exact leftWritten

end Rule
end StatementParser
