import StatementParser.Node.Preorder
import StatementParser.Proofs.Node.WellFormed

/-!
The places of nodes. In a tree every node has the index of its first token, if the source of the
tree begins at a given one. The nodes are listed parents first, and in the source of a program the
tokens of each node are found at its place.
-/
namespace StatementParser.Node

theorem visit_cons (seen pending : List Node) :
    visit (fun seen node => node :: seen) seen pending =
      (pending.flatMap preorder).reverse ++ seen := by
  induction size : sizeAll pending using Nat.strongRecOn generalizing seen pending with
  | ind size ih =>
  cases pending with
  | nil => simp [visit]
  | cons node rest =>
    have nodes : preorder node = node :: node.children.flatMap preorder := by
      have below := ih (sizeAll node.children) (by rw [← size, sizeAll, size_eq]; omega)
        [node] node.children rfl
      rw [preorder, visit, List.append_nil, below]
      simp
    have goesOn := ih (sizeAll (node.children ++ rest))
      (by rw [← size, sizeAll_append, sizeAll, size_eq]; omega)
      (node :: seen) (node.children ++ rest) rfl
    rw [visit, goesOn, List.flatMap_append, List.flatMap_cons, nodes]
    simp

theorem preorder_eq (node : Node) :
    preorder node = node :: node.children.flatMap preorder := by
  rw [preorder, visit, List.append_nil, visit_cons]
  simp

/-- How many tokens of its own a node has in front of the child with the given number and behind the
child before that. -/
def gap : Kind → Nat → Nat
  | .declaration, 0 => 1
  | .assignment, 1 => 1
  | .conditional, _ => 2
  | .plus, 1 => 1
  | .minus, 1 => 1
  | .equal, 1 => 1
  | _, _ => 0

mutual

/-- The nodes of a tree in preorder, each with the index of its first token, when the source of the
tree begins at the given index. -/
def placed : Nat → Node → List (Nat × Node)
  | index, ⟨kind, text, children⟩ =>
    (index, ⟨kind, text, children⟩) :: placedAll kind 0 index children

def placedAll : Kind → Nat → Nat → List Node → List (Nat × Node)
  | _, _, _, [] => []
  | kind, count, index, node :: rest =>
    placed (index + gap kind count) node ++
      placedAll kind (count + 1) (index + gap kind count + node.tokens.length) rest

end

mutual

theorem map_snd_placed : ∀ (index : Nat) (node : Node),
    (placed index node).map Prod.snd = preorder node
  | index, ⟨kind, text, children⟩ => by
    rw [placed, List.map_cons, map_snd_placedAll kind 0 index children, preorder_eq]

theorem map_snd_placedAll : ∀ (kind : Kind) (count index : Nat) (nodes : List Node),
    (placedAll kind count index nodes).map Prod.snd = nodes.flatMap preorder
  | _, _, _, [] => by rw [placedAll]; rfl
  | kind, count, index, node :: rest => by
    rw [placedAll, List.map_append, map_snd_placed _ node, map_snd_placedAll kind _ _ rest,
      List.flatMap_cons]

end

/-- The tokens hold those of every placed node at its place, counted from the index. -/
def Holds (tokens : List Token) (index : Nat) (places : List (Nat × Node)) : Prop :=
  ∀ place ∈ places, ∃ before after, tokens = before ++ (place.2.tokens ++ after) ∧
    place.1 = index + before.length

def Sited (node : Node) : Prop :=
  ∀ index, Holds node.tokens index (placed index node)

theorem holds_append {tokens : List Token} {index : Nat} {first second : List (Nat × Node)}
    (front : Holds tokens index first) (behind : Holds tokens index second) :
    Holds tokens index (first ++ second) := by
  intro place member
  rcases List.mem_append.mp member with before | after
  · exact front place before
  · exact behind place after

theorem holds_around {tokens : List Token} {index : Nat} {places : List (Nat × Node)}
    (own more : List Token) (holds : Holds tokens (index + own.length) places) :
    Holds (own ++ (tokens ++ more)) index places := by
  intro place member
  obtain ⟨before, after, split, index⟩ := holds place member
  refine ⟨own ++ before, after ++ more, ?_, ?_⟩
  · rw [split]
    simp only [List.append_assoc]
  · rw [List.length_append]
    omega

theorem sited_mk {kind : Kind} {text : Option String} {children : List Node}
    (inner : ∀ index, Holds (tokens ⟨kind, text, children⟩) index
      (placedAll kind 0 index children)) : Sited ⟨kind, text, children⟩ := by
  intro index place member
  rw [placed, List.mem_cons] at member
  rcases member with rfl | below
  · exact ⟨[], [], by simp, rfl⟩
  · exact inner index place below

theorem holds_placedAll_nil (kind : Kind) (count index : Nat) (tokens : List Token) :
    Holds tokens index (placedAll kind count index []) := by
  intro place member
  rw [placedAll] at member
  cases member

theorem holds_placedAll_cons {kind : Kind} {count index : Nat} {node : Node} {rest : List Node}
    (own : List Token) (length : own.length = gap kind count) (sited : Sited node)
    {more : List Token}
    (others : Holds more (index + (own ++ node.tokens).length)
      (placedAll kind (count + 1) (index + (own ++ node.tokens).length) rest)) :
    Holds (own ++ (node.tokens ++ more)) index (placedAll kind count index (node :: rest)) := by
  rw [placedAll, ← length]
  apply holds_append
  · exact holds_around own more (sited _)
  · have behind := holds_around (own ++ node.tokens) [] others
    rw [List.append_nil, List.append_assoc, List.length_append, ← Nat.add_assoc] at behind
    exact behind

theorem sited_of_leaf {node : Node} (single : Leaf node) : Sited node := by
  cases single with
  | identifier text => exact sited_mk fun index => holds_placedAll_nil _ _ _ _
  | number text => exact sited_mk fun index => holds_placedAll_nil _ _ _ _

theorem sited_binary {kind : Kind} {sign : Token} {left right : Node} {operator : String}
    (spelt : (binary kind operator left right).tokens = left.tokens ++ sign :: right.tokens)
    (front : gap kind 0 = 0) (between : gap kind 1 = 1) (before : Sited left)
    (behind : Sited right) : Sited (binary kind operator left right) := by
  apply sited_mk
  intro index
  change Holds (binary kind operator left right).tokens _ _
  rw [spelt]
  apply holds_placedAll_cons [] front.symm before
  rw [← List.append_nil right.tokens]
  exact holds_placedAll_cons [sign] between.symm behind (holds_placedAll_nil _ _ _ _)

theorem sited_of_arithmetic {node : Node} (arithmetic : Arithmetic node) : Sited node := by
  induction arithmetic with
  | leaf single => exact sited_of_leaf single
  | plus operator before last ih => exact sited_binary rfl rfl rfl ih (sited_of_leaf last)
  | minus operator before last ih => exact sited_binary rfl rfl rfl ih (sited_of_leaf last)

theorem sited_of_condition {node : Node} (condition : Condition node) : Sited node := by
  cases condition with
  | value arithmetic => exact sited_of_arithmetic arithmetic
  | equal operator before behind =>
    exact sited_binary rfl rfl rfl (sited_of_arithmetic before) (sited_of_arithmetic behind)

theorem sited_statements {body : List Node} (each : ∀ node ∈ body, Sited node) :
    Sited (statements body) := by
  apply sited_mk
  intro index
  change Holds (statements body).tokens _ _
  rw [tokens_statements]
  suffices holds : ∀ count index, Holds (body.flatMap tokens) index
      (placedAll .statements count index body) from holds 0 index
  intro count index
  induction body generalizing count index with
  | nil => exact holds_placedAll_nil _ _ _ _
  | cons node body ih =>
    rw [List.flatMap_cons]
    apply holds_placedAll_cons [] rfl (each node List.mem_cons_self)
    exact ih (fun inner member => each inner (List.mem_cons_of_mem node member)) _ _

theorem sited_of_statement {node : Node} (statement : Statement node) : Sited node := by
  induction statement with
  | declaration keyword name =>
    apply sited_mk
    intro index
    exact holds_placedAll_cons [⟨.intWord, keyword⟩] rfl (sited_of_leaf (.identifier name))
      (holds_placedAll_nil _ _ _ _)
  | assignment operator name arithmetic =>
    apply sited_mk
    intro index
    rw [tokens_assignment, List.append_assoc]
    apply holds_placedAll_cons [] rfl (sited_of_leaf (.identifier name))
    exact holds_placedAll_cons [⟨.assign, operator⟩] rfl (sited_of_arithmetic arithmetic)
      (holds_placedAll_nil _ _ _ _)
  | @conditional keyword test body condition all ih =>
    apply sited_mk
    intro index
    have spelt : tokens ⟨.conditional, some keyword, [test, statements body]⟩ =
        [.mk .ifWord keyword, .symbol .lparen] ++ (test.tokens ++
          ([.symbol .rparen, .symbol .lbrace] ++ ((statements body).tokens ++
            [.symbol .rbrace]))) := by simp
    rw [spelt]
    apply holds_placedAll_cons _ rfl (sited_of_condition condition)
    exact holds_placedAll_cons _ rfl (sited_statements ih) (holds_placedAll_nil _ _ _ _)

theorem exists_word_of_placed {node : Node} (formed : WellFormed node) {read : List Token}
    (written : Written node read) {place : Nat × Node} (member : place ∈ placed 0 node) :
    ∃ before word after, read = before ++ (word ++ after) ∧ before.length = place.1 ∧
      Written place.2 word := by
  obtain ⟨body, rfl, all⟩ := formed
  have sited := sited_statements fun inner member => sited_of_statement (all inner member)
  obtain ⟨front, rest, split, index⟩ := sited 0 place member
  rw [← written] at split
  obtain ⟨before, behind, rfl, rfl, second⟩ := List.map_eq_append_iff.mp split
  obtain ⟨word, after, rfl, spelt, -⟩ := List.map_eq_append_iff.mp second
  rw [List.length_map, Nat.zero_add] at index
  exact ⟨before, word, after, rfl, index.symm, spelt⟩

end StatementParser.Node
