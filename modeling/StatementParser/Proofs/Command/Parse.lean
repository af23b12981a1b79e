import Mathlib.Control.Monad.Basic
import StatementParser.Proofs.Command.Arguments
import StatementParser.Proofs.Command.Stages
import StatementParser.Proofs.Listing.RoundTrip
import StatementParser.Proofs.Node.Texts
import StatementParser.Proofs.Program.Unambiguous
import StatementParser.Proofs.Terminal.Arguments
import StatementParser.Terminal.Log

/-!
What a process does that is told to parse one file. It succeeds when every stage does, and prints
the program on a single line: a listing gives no line feed to a token, a program has the texts of
its tokens, and nothing is printed between them that ends a line. Otherwise it prints nothing and
tells which stage failed first.
-/
namespace StatementParser.Command

theorem no_feed_render {text : String} {tokens : List Token} {program : Node}
    (listed : Listing.read text = .ok tokens) (parsed : Program.parse tokens = .ok program) :
    '\n' ∉ program.render.toList := by
  obtain ⟨formed, -, written⟩ := Program.wellFormed_of_block (Program.block_of_parse_ok parsed)
  rw [Node.render_eq_of_compound (Program.not_isAtom_of_parse_ok parsed)]
  apply Node.not_mem_sexpr rfl (by decide)
  intro inner member word found
  obtain ⟨token, inside, rfl, -⟩ := Node.exists_token_of_written formed written member found
  have among : token ∈ tokens := (List.takeWhile_sublist _).subset inside
  exact ((Listing.terminated_of_read listed).listable token among).single

theorem render_of_parse_ok {tokens : List Token} {program : Node}
    (parsed : Program.parse tokens = .ok program) :
    ∃ rest, program.render = "(statements" ++ rest := by
  obtain ⟨body, rfl, -⟩ := Program.block_of_parse_ok parsed
  rw [Node.render_of_compound (Program.not_isAtom_of_parse_ok parsed)]
  exact ⟨_, String.append_assoc⟩

section

variable {matcher : Matcher} (documented : matcher.Documented) {path : String}
  {invocation : Invocation} (accepts : matcher.invocation ["parse", path] = .ok invocation)
  {logger : Log.Logger} (setting : Option logger.Setting)
  {access : String → Except ReadFault ByteArray}

include documented accepts

theorem execute_of_accepts (reader : Reader) (sink : Sink) :
    execute matcher logger reader sink setting ["parse", path] =
      invoke logger reader sink setting ⟨0, .parse, path⟩ := by
  have only : invocation = ⟨0, .parse, path⟩ :=
    invocation_of_pair documented .parse accepts
  simp only [execute, accepts, only]

theorem execute_of_program {program : Node} (yields : Yields access path (.ok program)) :
    ∃ log, execute matcher logger (decoded access) .unlimited setting ["parse", path] =
      ⟨0, output program, log⟩ := by
  rw [execute_of_accepts documented accepts]
  exact invoke_parse_of_ok setting 0 (load_of_yields_ok yields) rfl

theorem execute_of_diagnostic {diagnostic : String}
    (yields : Yields access path (.error diagnostic)) :
    ∃ log, execute matcher logger (decoded access) .unlimited setting ["parse", path] =
      ⟨1, ByteArray.empty, log ++ (diagnostic ++ "\n")⟩ := by
  obtain ⟨failure, failed, rfl⟩ := load_of_yields_error yields
  rw [execute_of_accepts documented accepts]
  exact invoke_of_error setting failed

end

/-- A process that is given one path to parse succeeds exactly when the file at the path yields a
program. Then it prints this program alone, on a single line. Otherwise it fails and prints nothing,
and the diagnostic of the first stage that failed ends its error output. -/
theorem execute_parse {matcher : Matcher} (documented : matcher.Documented) {path : String}
    {invocation : Invocation} (accepts : matcher.invocation ["parse", path] = .ok invocation)
    (access : String → Except ReadFault ByteArray) (logger : Log.Logger)
    (setting : Option logger.Setting) :
    let exit := execute matcher logger (decoded access) .unlimited setting ["parse", path]
    (exit.code = 0 ↔ ∃ program, Yields access path (.ok program)) ∧
      (∀ program, Yields access path (.ok program) →
        exit.written = (program.render ++ "\n").toUTF8 ∧
          (∃ rest, program.render = "(statements" ++ rest) ∧
          (program.render ++ "\n").toList.count '\n' = 1) ∧
      (exit.code ≠ 0 → exit.code = 1 ∧ exit.written = ByteArray.empty ∧
        ∃ diagnostic log, Yields access path (.error diagnostic) ∧
          exit.diagnostics = log ++ (diagnostic ++ "\n")) := by
  intro exit
  have program : ∀ {program}, Yields access path (.ok program) →
      ∃ log, exit = ⟨0, output program, log⟩ :=
    execute_of_program documented accepts setting
  have fails : ∀ {diagnostic}, Yields access path (.error diagnostic) →
      ∃ log, exit = ⟨1, ByteArray.empty, log ++ (diagnostic ++ "\n")⟩ :=
    execute_of_diagnostic documented accepts setting
  refine ⟨⟨?_, ?_⟩, ?_, ?_⟩
  · intro succeeds
    obtain ⟨outcome, yields⟩ := exists_yields access path
    cases outcome with
    | ok program => exact ⟨program, yields⟩
    | error diagnostic =>
      obtain ⟨log, same⟩ := fails yields
      have failed : exit.code = 1 := congrArg Exit.code same
      omega
  · rintro ⟨tree, yields⟩
    obtain ⟨log, same⟩ := program yields
    exact congrArg Exit.code same
  · intro tree yields
    obtain ⟨log, same⟩ := program yields
    cases yields with
    | accepted found decodes listed parsed =>
      refine ⟨congrArg Exit.written same, render_of_parse_ok parsed, ?_⟩
      rw [String.toList_append, List.count_append,
        List.count_eq_zero.mpr (no_feed_render listed parsed)]
      rfl
  · intro unsuccessful
    obtain ⟨outcome, yields⟩ := exists_yields access path
    cases outcome with
    | ok tree =>
      obtain ⟨log, same⟩ := program yields
      exact absurd (congrArg Exit.code same) unsuccessful
    | error diagnostic =>
      obtain ⟨log, same⟩ := fails yields
      exact ⟨congrArg Exit.code same, congrArg Exit.written same, diagnostic, log, yields,
        congrArg Exit.diagnostics same⟩

/-- The path may be a hyphen, and a text may hold a break that is no line feed. Each stage may fail:
the bytes may be no text, the text no listing, and the listing no program. -/
theorem execute_parse_hyphen :
    let files (content : ByteArray) : Files := ⟨[(["-"], .file content)]⟩
    let exit (content : ByteArray) :=
      execute Terminal.matcher Terminal.logger (files content).read .unlimited (some "trace")
        ["parse", "-"]
    let fails (content : ByteArray) (diagnostic : String) : Prop :=
      (exit content).code = 1 ∧ (exit content).written = ByteArray.empty ∧
        ∃ log, (exit content).diagnostics = log ++ (diagnostic ++ "\n")
    Terminal.matcher.invocation ["parse", "-"] = .ok ⟨0, .parse, "-"⟩ ∧
      (exit "int\nidentifier a\u2028b\n# end\nsemicolon".toUTF8).code = 0 ∧
      (exit "int\nidentifier a\u2028b\n# end\nsemicolon".toUTF8).written =
        "(statements (int a\u2028b))\n".toUTF8 ∧
      fails ⟨#[0x69, 0xff]⟩ "Error reading -: stream did not contain valid UTF-8" ∧
      fails "int\n\nwhile".toUTF8 "-: Listing error at line 3: unknown token kind 'while'" ∧
      fails "int\nidentifier a\nplus .".toUTF8
        "-: Syntax error at token 2: Expected ';' after variable declaration, found '.'" := by
  intro files exit fails
  have accepts : Terminal.matcher.invocation ["parse", "-"] = .ok ⟨0, .parse, "-"⟩ := rfl
  have names : "-".splitOn "/" = ["-"] := by
    rw [String.splitOn, if_neg (by decide), String.splitOnAux, if_neg (by decide),
      if_neg (by decide), String.splitOnAux, if_pos (by decide)]
    decide +kernel
  have found (content : ByteArray) : (files content).fetch "-" = .ok content := by
    rw [Files.fetch, Files.locate, names]
    rfl
  have parses (content : ByteArray) := execute_parse Terminal.documented_matcher accepts
    (files content).fetch Terminal.logger (some "trace")
  simp only [decoded_fetch] at parses
  have stops {content : ByteArray} {diagnostic : String}
      (yields : Yields (files content).fetch "-" (.error diagnostic)) : fails content diagnostic := by
    obtain ⟨succeeds, -, unsuccessful⟩ := parses content
    have failed : (exit content).code ≠ 0 := by
      intro done
      obtain ⟨program, other⟩ := succeeds.mp done
      cases yields.unique other
    obtain ⟨code, silent, shown, log, other, ends⟩ := unsuccessful failed
    cases yields.unique other
    exact ⟨code, silent, log, ends⟩
  obtain ⟨succeeds, prints, -⟩ := parses "int\nidentifier a\u2028b\n# end\nsemicolon".toUTF8
  have yields : Yields (files "int\nidentifier a\u2028b\n# end\nsemicolon".toUTF8).fetch "-"
      (.ok (.statements [⟨.declaration, some "int", [.identifier "a\u2028b"]⟩])) := by
    have decodes : String.fromUTF8? "int\nidentifier a\u2028b\n# end\nsemicolon".toUTF8 =
        some "int\nidentifier a\u2028b\n# end\nsemicolon" := by decide +kernel
    have listed : Listing.read "int\nidentifier a\u2028b\n# end\nsemicolon" =
        .ok [⟨.intWord, "int"⟩, ⟨.identifier, "a\u2028b"⟩, ⟨.semicolon, ";"⟩, .eof] := by
      decide +kernel
    exact .accepted (found _) decodes listed rfl
  have garbled : String.fromUTF8? ⟨#[0x69, 0xff]⟩ = none := by decide +kernel
  have malformed : Yields (files "int\n\nwhile".toUTF8).fetch "-"
      (.error "-: Listing error at line 3: unknown token kind 'while'") := by
    have decodes : String.fromUTF8? "int\n\nwhile".toUTF8 = some "int\n\nwhile" := by
      decide +kernel
    have refused : Listing.read "int\n\nwhile" = .error ⟨.unknownKind "while", 3⟩ := by
      decide +kernel
    have yields := Yields.malformed (found _) decodes refused
    have words : "-" ++ ": Listing error at line " ++
        toString (Listing.Error.mk (.unknownKind "while") 3).line ++ ": " ++
          (Listing.Error.mk (.unknownKind "while") 3).fault.message =
        "-: Listing error at line 3: unknown token kind 'while'" := by decide +kernel
    rw [words] at yields
    exact yields
  have rejected : Yields (files "int\nidentifier a\nplus .".toUTF8).fetch "-"
      (.error "-: Syntax error at token 2: Expected ';' after variable declaration, found '.'") := by
    have decodes : String.fromUTF8? "int\nidentifier a\nplus .".toUTF8 =
        some "int\nidentifier a\nplus ." := by decide +kernel
    have listed : Listing.read "int\nidentifier a\nplus ." =
        .ok [⟨.intWord, "int"⟩, ⟨.identifier, "a"⟩, ⟨.plus, "."⟩, .eof] := by decide +kernel
    have refused : Program.parse [⟨.intWord, "int"⟩, ⟨.identifier, "a"⟩, ⟨.plus, "."⟩, .eof] =
        .error ⟨.semicolonAfterDeclaration, ".", 2⟩ := rfl
    have yields := Yields.rejected (found _) decodes listed refused
    have words : "-" ++ ": Syntax error at token " ++
        toString (SyntaxError.mk .semicolonAfterDeclaration "." 2).position ++ ": " ++
          (SyntaxError.mk .semicolonAfterDeclaration "." 2).reason.message ++ ", found '" ++
            (SyntaxError.mk .semicolonAfterDeclaration "." 2).found ++ "'" =
        "-: Syntax error at token 2: Expected ';' after variable declaration, found '.'" := by
      decide +kernel
    rw [words] at yields
    exact yields
  refine ⟨accepts, succeeds.mpr ⟨_, yields⟩, ?_, stops (.undecodable (found _) garbled),
    stops malformed, stops rejected⟩
  rw [(prints _ yields).1, Node.render_eq_of_compound (by decide)]
  rfl

end StatementParser.Command
