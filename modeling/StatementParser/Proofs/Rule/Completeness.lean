import StatementParser.Proofs.Rule.Rounds

/-!
The source of a tree is read back as that tree, in the middle of any tokens. A chain of terms has no
end of its own, so what is shown first is how it goes on behind the terms already read; whatever
cannot go on with the chain then ends it.
-/
namespace StatementParser

open Node (Leaf Arithmetic Condition Statement Written nestingAll)

theorem Token.first_cons (token : Token) (rest : List Token) :
    Token.first (token :: rest) = token := rfl

namespace Rule

variable {α β : Type}

/-- With these tokens ahead the rule yields the value and leaves the rest. -/
def Yields (rule : Rule α) (depth : Nat) (ahead : List Token) (value : α) (rest : List Token) :
    Prop :=
  ∀ position log, ∃ position' log',
    rule.run ⟨position, ahead, depth, log⟩ = .ok value ⟨position', rest, depth, log'⟩

theorem yields_bind {rule : Rule α} {next : α → Rule β} {depth : Nat}
    {ahead middle rest : List Token} {first : α} {value : β}
    (head : Yields rule depth ahead first middle) (tail : Yields (next first) depth middle value rest) :
    Yields (rule >>= next) depth ahead value rest := by
  intro position log
  obtain ⟨position', log', ran⟩ := head position log
  obtain ⟨position'', log'', done⟩ := tail position' log'
  refine ⟨position'', log'', ?_⟩
  rw [EStateM.run_bind, ran]
  exact done

theorem yields_pure (value : α) (depth : Nat) (ahead : List Token) :
    Yields (pure value) depth ahead value ahead :=
  fun position log => ⟨position, log, rfl⟩

theorem yields_take (depth : Nat) (token : Token) (rest : List Token) :
    Yields take depth (token :: rest) token rest :=
  fun position log => ⟨position + 1, log, rfl⟩

theorem yields_announce (depth : Nat) (ahead : List Token) :
    Yields announce depth ahead () ahead :=
  fun position _ => ⟨position, _, rfl⟩

theorem yields_expect {kind : Kind} (reason : Reason) (depth : Nat) {token : Token}
    (rest : List Token) (same : token.kind = kind) :
    Yields (expect kind reason) depth (token :: rest) token.text rest := by
  intro position log
  refine ⟨position + 1, log, ?_⟩
  rw [run_expect]
  exact if_pos same

theorem yields_current {next : Token → Rule α} {depth : Nat} {ahead rest : List Token} {value : α}
    (tail : Yields (next (Token.first ahead)) depth ahead value rest) :
    Yields (current >>= next) depth ahead value rest :=
  fun position log => tail position log

theorem yields_get {next : State → Rule α} {depth : Nat} {ahead rest : List Token} {value : α}
    (tail : ∀ state : State, state.depth = depth → Yields (next state) depth ahead value rest) :
    Yields (get >>= next) depth ahead value rest :=
  fun position log => tail ⟨position, ahead, depth, log⟩ rfl position log

theorem yields_nested {rule : Rule α} {depth : Nat} {ahead rest : List Token} {value : α}
    (deeper : Yields rule (depth + 1) ahead value rest) :
    Yields (nested rule) depth ahead value rest := by
  intro position log
  obtain ⟨position', log', ran⟩ := deeper position log
  refine ⟨position', log', ?_⟩
  rw [run_nested, ran]
  rfl

theorem yields_term {node : Node} {read : List Token} (single : Leaf node)
    (written : Written node read) (depth : Nat) (rest : List Token) :
    Yields term depth (read ++ rest) node rest := by
  cases single with
  | identifier text =>
    obtain ⟨tail, rfl, nothing⟩ := Token.exists_cons_of_plain written rfl
    obtain rfl := List.map_eq_nil_iff.mp nothing
    exact fun position log => ⟨position + 1, log, rfl⟩
  | number text =>
    obtain ⟨tail, rfl, nothing⟩ := Token.exists_cons_of_plain written rfl
    obtain rfl := List.map_eq_nil_iff.mp nothing
    exact fun position log => ⟨position + 1, log, rfl⟩

theorem yields_terms_of_operatorKind? {sign : Token} {kind : Node.Kind}
    (found : operatorKind? sign.kind = some kind) {left right value : Node}
    {word rest final : List Token} (single : Leaf right) (written : Written right word) {depth : Nat}
    (goesOn : Yields (terms (.binary kind sign.text left right)) depth rest value final) :
    Yields (terms left) depth (sign :: word ++ rest) value final := by
  rw [terms_eq]
  apply yields_current
  rw [List.cons_append, Token.first_cons, found]
  apply yields_bind (yields_take depth sign _)
  exact yields_bind (yields_term single written depth rest) goesOn

theorem yields_terms_nil {left : Node} {rest : List Token}
    (stop : operatorKind? (Token.first rest).kind = none) (depth : Nat) :
    Yields (terms left) depth rest left rest := by
  rw [terms_eq]
  apply yields_current
  rw [stop]
  exact yields_pure left depth rest

theorem yields_expression_of_terms {node : Node} (arithmetic : Arithmetic node) {read : List Token}
    (written : Written node read) {depth : Nat} {rest final : List Token} {value : Node}
    (goesOn : Yields (terms node) depth rest value final) :
    Yields expression depth (read ++ rest) value final := by
  induction arithmetic generalizing read rest with
  | leaf single =>
    rw [expression_eq]
    exact yields_bind (yields_term single written depth rest) goesOn
  | plus operator before last ih =>
    obtain ⟨first, word, rfl, leftWritten, rightWritten⟩ :=
      Token.exists_append_of_plain written rfl
    rw [List.append_assoc]
    apply ih leftWritten
    exact yields_terms_of_operatorKind? rfl last rightWritten goesOn
  | minus operator before last ih =>
    obtain ⟨first, word, rfl, leftWritten, rightWritten⟩ :=
      Token.exists_append_of_plain written rfl
    rw [List.append_assoc]
    apply ih leftWritten
    exact yields_terms_of_operatorKind? rfl last rightWritten goesOn

theorem yields_expression {node : Node} (arithmetic : Arithmetic node) {read rest : List Token}
    (written : Written node read) (depth : Nat)
    (stop : operatorKind? (Token.first rest).kind = none) :
    Yields expression depth (read ++ rest) node rest :=
  yields_expression_of_terms arithmetic written (yields_terms_nil stop depth)

theorem yields_condition {node : Node} (condition : Condition node) {read rest : List Token}
    (written : Written node read) (depth : Nat) (stop : (Token.first rest).kind = .rparen) :
    Yields Rule.condition depth (read ++ rest) node rest := by
  have ends : operatorKind? (Token.first rest).kind = none := by rw [stop]; rfl
  cases condition with
  | value arithmetic =>
    apply yields_bind (yields_expression arithmetic written depth ends)
    apply yields_current
    rw [stop]
    exact yields_pure node depth rest
  | equal operator before behind =>
    obtain ⟨first, word, rfl, leftWritten, rightWritten⟩ :=
      Token.exists_append_of_plain written rfl
    rw [List.append_assoc]
    apply yields_bind (yields_expression before leftWritten depth rfl)
    apply yields_current
    rw [List.cons_append, Token.first_cons, if_pos rfl]
    apply yields_bind (yields_take depth _ _)
    apply yields_bind (yields_expression behind rightWritten depth ends)
    exact yields_pure _ depth rest

theorem yields_declaration (keyword name : String) {read : List Token}
    (written : Written ⟨.declaration, some keyword, [.identifier name]⟩ read) (depth : Nat)
    (rest : List Token) :
    Yields declaration depth (read ++ rest)
      ⟨.declaration, some keyword, [.identifier name]⟩ rest := by
  rw [Written, Node.tokens_declaration, Node.tokens_identifier] at written
  obtain ⟨tail, rfl, second⟩ := Token.exists_cons_of_plain written rfl
  obtain ⟨tail, rfl, third⟩ := Token.exists_cons_of_plain second rfl
  obtain ⟨stop, tail, rfl, semicolon, nothing⟩ := Token.exists_cons_of_symbol third
  obtain rfl := List.map_eq_nil_iff.mp nothing
  refine yields_bind (yields_take depth _ _) ?_
  refine yields_bind (yields_expect _ depth _ rfl) ?_
  refine yields_bind (yields_expect _ depth _ semicolon) ?_
  exact yields_pure _ depth rest

theorem yields_assignment (operator name : String) {value : Node} (arithmetic : Arithmetic value)
    {read : List Token}
    (written : Written ⟨.assignment, some operator, [.identifier name, value]⟩ read) (depth : Nat)
    (rest : List Token) :
    Yields assignment depth (read ++ rest)
      ⟨.assignment, some operator, [.identifier name, value]⟩ rest := by
  rw [Written, Node.tokens_assignment, Node.tokens_identifier] at written
  obtain ⟨tail, rfl, second⟩ := Token.exists_cons_of_plain written rfl
  obtain ⟨tail, rfl, third⟩ := Token.exists_cons_of_plain second rfl
  obtain ⟨word, last, rfl, spelt, fourth⟩ := List.map_eq_append_iff.mp third
  obtain ⟨stop, tail, rfl, semicolon, nothing⟩ := Token.exists_cons_of_symbol fourth
  obtain rfl := List.map_eq_nil_iff.mp nothing
  have ends : operatorKind? stop.kind = none := by rw [semicolon]; rfl
  simp only [List.cons_append, List.append_assoc, List.nil_append]
  refine yields_bind (yields_expect _ depth _ rfl) ?_
  refine yields_bind (yields_expect _ depth _ rfl) ?_
  refine yields_bind (yields_expression arithmetic spelt depth ends) ?_
  refine yields_bind (yields_expect _ depth _ semicolon) ?_
  exact yields_pure _ depth rest

theorem yields_conditional {limit : Option Nat} {block : Rule Node} (keyword : String)
    {test body : Node} (condition : Condition test) {read : List Token} {depth : Nat}
    (written : Written ⟨.conditional, some keyword, [test, body]⟩ read)
    (free : limit ≠ some depth) (rest : List Token)
    (inner : ∀ words final, Written body words → (Token.first final).kind = .rbrace →
      Yields block (depth + 1) (words ++ final) body final) :
    Yields (conditional limit block) depth (read ++ rest)
      ⟨.conditional, some keyword, [test, body]⟩ rest := by
  rw [Written, Node.tokens_conditional] at written
  simp only [List.cons_append, List.append_assoc] at written
  obtain ⟨tail, rfl, second⟩ := Token.exists_cons_of_plain written rfl
  obtain ⟨opening, tail, rfl, lparen, third⟩ := Token.exists_cons_of_symbol second
  obtain ⟨tested, tail, rfl, spelt, fourth⟩ := List.map_eq_append_iff.mp third
  obtain ⟨closing, tail, rfl, rparen, fifth⟩ := Token.exists_cons_of_symbol fourth
  obtain ⟨begun, tail, rfl, lbrace, sixth⟩ := Token.exists_cons_of_symbol fifth
  obtain ⟨words, last, rfl, held, seventh⟩ := List.map_eq_append_iff.mp sixth
  obtain ⟨ended, tail, rfl, rbrace, nothing⟩ := Token.exists_cons_of_symbol seventh
  obtain rfl := List.map_eq_nil_iff.mp nothing
  simp only [List.cons_append, List.append_assoc, List.nil_append]
  apply yields_get
  intro state same
  have shallow : tooDeep limit state = false := by simp [tooDeep, same, free]
  rw [shallow]
  refine yields_bind (yields_take depth _ _) ?_
  refine yields_bind (yields_expect _ depth _ lparen) ?_
  refine yields_bind (yields_condition condition spelt depth rparen) ?_
  refine yields_bind (yields_expect _ depth _ rparen) ?_
  refine yields_bind (yields_expect _ depth _ lbrace) ?_
  refine yields_bind (yields_nested (inner words _ held rbrace)) ?_
  refine yields_bind (yields_expect _ depth _ rbrace) ?_
  exact yields_pure _ depth rest

theorem not_stop_of_statement {close : Kind} (closing : close = .rbrace ∨ close = .eof) {node : Node}
    (statement : Statement node) {read : List Token} (written : Written node read)
    (rest : List Token) :
    ¬((Token.first (read ++ rest)).kind = close ∨ (Token.first (read ++ rest)).kind = .eof) := by
  obtain ⟨token, tail, rfl, notClosed, notEnded⟩ := statement.exists_first written
  rintro (closed | ended)
  · rcases closing with rfl | rfl
    · exact notClosed closed
    · exact notEnded closed
  · exact notEnded ended

theorem yields_statementsBehind {limit : Option Nat} {depth : Nat} {close : Kind}
    (closing : close = .rbrace ∨ close = .eof) {body : List Node}
    (all : ∀ node ∈ body, Statement node)
    (each : ∀ node ∈ body, ∀ word rest, Written node word →
      Yields (statement limit (statements limit .rbrace)) depth (word ++ rest) node rest)
    (done : List Node) {read rest : List Token} (written : Written (.statements body) read)
    (stop : (Token.first rest).kind = close ∨ (Token.first rest).kind = .eof) :
    Yields (statementsBehind limit close done) depth (read ++ rest)
      (.statements (done.reverse ++ body)) rest := by
  rw [Written, Node.tokens_statements] at written
  induction body generalizing done read with
  | nil =>
    obtain rfl := List.map_eq_nil_iff.mp written
    rw [statementsBehind_eq]
    apply yields_current
    rw [List.nil_append, List.append_nil]
    dsimp only
    rw [if_pos stop]
    exact yields_pure _ depth rest
  | cons node body ih =>
    rw [List.flatMap_cons] at written
    obtain ⟨word, behind, rfl, spelt, written⟩ := List.map_eq_append_iff.mp written
    have goesOn := not_stop_of_statement closing (all node List.mem_cons_self) spelt (behind ++ rest)
    rw [statementsBehind_eq, List.append_assoc]
    apply yields_current
    dsimp only
    rw [if_neg goesOn]
    refine yields_bind (each node List.mem_cons_self word _ spelt) ?_
    have goOn := ih (fun inner member => all inner (List.mem_cons_of_mem node member))
      (fun inner member => each inner (List.mem_cons_of_mem node member)) (node :: done) written
    simpa using goOn

theorem yields_statement {limit : Option Nat} {node : Node} (formed : Statement node) {depth : Nat}
    (room : Within limit (depth + node.nesting)) {read : List Token} (written : Written node read)
    (rest : List Token) :
    Yields (statement limit (statements limit .rbrace)) depth (read ++ rest) node rest := by
  induction formed generalizing depth read rest with
  | declaration keyword name =>
    have run := yields_declaration keyword name written depth rest
    obtain ⟨tail, rfl, behind⟩ := Token.exists_cons_of_plain written rfl
    exact yields_bind (yields_announce depth _) (yields_current run)
  | assignment operator name arithmetic =>
    have run := yields_assignment operator name arithmetic written depth rest
    obtain ⟨tail, rfl, behind⟩ := Token.exists_cons_of_plain written rfl
    exact yields_bind (yields_announce depth _) (yields_current run)
  | @conditional keyword test body condition all ih =>
    rw [Node.nesting_conditional keyword body condition] at room
    have free : limit ≠ some depth := by
      intro same
      have le := room depth same
      omega
    have within : ∀ inner ∈ body, Within limit (depth + 1 + inner.nesting) := by
      intro inner member
      have le := Node.nestingAll_le_iff.mp (Nat.le_refl _) inner member
      exact room.mono (by omega)
    have block : ∀ words final, Written (.statements body) words →
        (Token.first final).kind = .rbrace →
        Yields (statements limit .rbrace) (depth + 1) (words ++ final) (.statements body) final := by
      intro words final spelt ends
      have each : ∀ inner ∈ body, ∀ word rest, Written inner word →
          Yields (statement limit (statements limit .rbrace)) (depth + 1) (word ++ rest) inner
            rest := by
        intro inner member word rest written
        exact ih inner member (within inner member) written rest
      exact yields_statementsBehind (.inl rfl) all each [] spelt (.inl ends)
    have run := yields_conditional keyword condition written free rest block
    obtain ⟨tail, rfl, behind⟩ := Token.exists_cons_of_plain written rfl
    exact yields_bind (yields_announce depth _) (yields_current run)

end Rule
end StatementParser
