import StatementParser.Proofs.Command.Arguments
import StatementParser.Proofs.Terminal.Arguments

/-!
The grammar of the command line. Flags, the name of an action, and behind it one path with more
flags around it make an invocation, and nothing else does. Two hyphens behind the action end the
flags, so that what follows them is a path however it is spelt.
-/
namespace StatementParser.Command

/-- Arguments are accepted just when they are flags, the name of an action, and a tail with one
path. The flags behind the action replace those in front of it, and no more than 255 are counted. -/
theorem invocation_iff_grammar {matcher : Matcher} (documented : matcher.Documented)
    (arguments : List String) (invocation : Invocation) :
    matcher.invocation arguments = .ok invocation ↔
      ∃ before front after flags tail,
        arguments = front ++ invocation.action.name :: tail ∧ Flags before front ∧
          Flags after flags ∧ Tail flags [invocation.path] tail ∧
          invocation.verbosity = min 255 (if flags = [] then before else after) := by
  rw [invocation_eq_ok_iff documented]
  constructor
  · rintro ⟨before, after, accepts, total⟩
    obtain ⟨count, front, action, tail, inner, rfl, given, goesOn, same⟩ :=
      front_of_accepts documented accepts
    injection same with first name inside
    obtain ⟨more, flags, path, others, mixed, rfl⟩ := (accepts_behind_iff documented).mp goesOn
    injection inside with second values
    obtain rfl := List.singleton_inj.mp values
    rw [name]
    refine ⟨before, front, after, flags, tail, rfl, first ▸ given, second ▸ others, mixed, ?_⟩
    rw [total]
    simp only [second, others.eq_zero_iff]
  · rintro ⟨before, front, after, flags, tail, rfl, given, others, mixed, total⟩
    have goesOn : matcher.accepts (behind invocation.action) tail =
        some (.operands after [invocation.path]) :=
      (accepts_behind_iff documented).mpr ⟨after, flags, invocation.path, others, mixed, rfl⟩
    refine ⟨before, after, accepts_front documented _ given goesOn, ?_⟩
    rw [total]
    simp only [others.eq_zero_iff]

/-- Flags may stand on either side of the action, and behind two hyphens the last word is a path. An
action alone is no invocation. -/
theorem invocation_iff_grammar_either_side :
    let matcher := Terminal.matcher
    matcher.Documented ∧
      matcher.invocation ["check", "prog.tokens", "-vv"] = .ok ⟨2, .check, "prog.tokens"⟩ ∧
      matcher.invocation ["-vvv", "parse", "-v", "--", "-v"] = .ok ⟨1, .parse, "-v"⟩ ∧
      matcher.invocation ["--verbose", "-vv", "parse", "-"] = .ok ⟨3, .parse, "-"⟩ ∧
      ∀ invocation, matcher.invocation ["parse"] ≠ .ok invocation := by
  intro matcher
  have documented : matcher.Documented := Terminal.documented_matcher
  refine ⟨documented, ?_, ?_, ?_, ?_⟩
  · apply (invocation_iff_grammar documented _ _).mpr
    exact ⟨0, [], 2, ["-vv"], ["prog.tokens", "-vv"], rfl, .nil, .letters 1 .nil,
      .path (.inr (by decide)) (.flag "-vv" .nil), rfl⟩
  · apply (invocation_iff_grammar documented _ _).mpr
    exact ⟨3, ["-vvv"], 1, ["-v"], ["-v", "--", "-v"], rfl, .letters 2 .nil, .letters 0 .nil,
      .flag "-v" (.separator ["-v"]), rfl⟩
  · apply (invocation_iff_grammar documented _ _).mpr
    exact ⟨3, ["--verbose", "-vv"], 0, [], ["-"], rfl, .long (.letters 1 .nil), .nil,
      .path (.inl rfl) .nil, rfl⟩
  · intro invocation accepts
    obtain ⟨before, front, after, flags, tail, split, -, -, mixed, -⟩ :=
      (invocation_iff_grammar documented _ _).mp accepts
    cases front with
    | nil =>
      injection split with _ nothing
      subst nothing
      cases mixed
    | cons word front =>
      injection split with _ others
      cases front <;> cases others

end StatementParser.Command
