import StatementParser.Node.Sexpr

/-!
The loop that writes a tree appends, step by step, what the recursion puts together. Once something
is written, every pending step stands for a text of its own, a node for its one-line form behind a
space, and what is pending stands for these texts in a row. Only the root is written without a
space, since nothing stands in front of it.
-/
namespace StatementParser.Node

theorem sexpr_of_atom {node : Node} (atom : node.isAtom = true) :
    node.sexpr = node.textOrEmpty := by
  obtain ⟨kind, text, children⟩ := node
  cases children with
  | nil =>
    cases kind with
    | statements => cases atom
    | _ => rfl
  | cons child rest => cases atom

theorem sexpr_of_compound {node : Node} (compound : ¬node.isAtom = true) :
    node.sexpr = "(" ++ node.head ++ sexprAll node.children ++ ")" := by
  obtain ⟨kind, text, children⟩ := node
  cases children with
  | nil =>
    cases kind with
    | statements => rfl
    | _ => exact absurd rfl compound
  | cons child rest =>
    have split : "(" ++ text.getD "statements" ++ " " ++ child.sexpr ++ sexprAll rest ++ ")" =
        "(" ++ text.getD "statements" ++ sexprAll (child :: rest) ++ ")" := by
      simp only [sexprAll, String.append_assoc]
    cases kind with
    | statements => rfl
    | _ => exact split

namespace Render

/-- The text that the pending steps stand for behind something already written. -/
def remaining : List Step → String
  | [] => ""
  | .enter node :: rest => " " ++ node.sexpr ++ remaining rest
  | .close :: rest => ")" ++ remaining rest

theorem remaining_enter_append (nodes : List Node) (rest : List Step) :
    remaining (nodes.map Step.enter ++ rest) = sexprAll nodes ++ remaining rest := by
  induction nodes with
  | nil => simp [sexprAll]
  | cons node nodes ih =>
    simp only [List.map_cons, List.cons_append, remaining, sexprAll]
    rw [ih, String.append_assoc, String.append_assoc, String.append_assoc]

theorem separate_of_ne_empty {out : String} (begun : out ≠ "") : separate out = out ++ " " := by
  unfold separate
  rw [if_neg]
  simpa using begun

theorem write_of_ne_empty {out : String} (begun : out ≠ "") (pending : List Step) :
    write out pending = out ++ remaining pending := by
  fun_induction write out pending with
  | case1 out => simp [remaining]
  | case2 out rest ih =>
    rw [ih (by simp), remaining, String.append_assoc]
  | case3 out node rest atom ih =>
    rw [separate_of_ne_empty begun] at ih ⊢
    rw [ih (by simp), remaining, sexpr_of_atom atom]
    simp only [String.append_assoc]
  | case4 out node rest compound ih =>
    rw [separate_of_ne_empty begun] at ih ⊢
    rw [List.map_attach_eq_pmap, List.pmap_eq_map] at ih
    rw [ih (by simp), remaining_enter_append, remaining, remaining, sexpr_of_compound compound]
    simp only [String.append_assoc]

end Render

open Render

theorem render_of_compound {node : Node} (compound : ¬node.isAtom = true) :
    node.render = "(" ++ node.head ++ sexprAll node.children ++ ")" := by
  unfold render
  rw [write, if_neg compound, write_of_ne_empty (by simp), remaining_enter_append]
  simp [remaining, separate, String.append_assoc]

theorem render_eq_of_compound {node : Node} (compound : ¬node.isAtom = true) :
    node.render = node.sexpr := by
  rw [render_of_compound compound, sexpr_of_compound compound]

/-- The loop over a list of steps writes the one-line form that the recursion defines. -/
theorem render_eq_sexpr (node : Node) : node.render = node.sexpr := by
  by_cases atom : node.isAtom = true
  · unfold render
    rw [write, if_pos atom, write, sexpr_of_atom atom]
    simp [separate]
  · exact render_eq_of_compound atom

end StatementParser.Node
