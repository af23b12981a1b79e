import StatementParser.Proofs.Command.Arguments
import StatementParser.Proofs.Command.Output
import StatementParser.Proofs.Listing.RoundTrip
import StatementParser.Proofs.Log.Lines
import StatementParser.Proofs.Terminal.Arguments
import StatementParser.Proofs.Terminal.Log

/-!
Logging changes nothing but the log. However many verbosity flags stand in front of an action, and
whatever the setting of the log is, the process writes the same to its standard output, ends with
the same code and tells the same at last on its error output; only the log lines before that differ,
and these as the choice of the filter says.
-/
namespace StatementParser.Command

open Log (Logger Record)

section Plain

theorem feed_not_mem_found {text : String} {tokens : List Token} {error : SyntaxError}
    (listed : Listing.read text = .ok tokens) (rejected : Program.parse tokens = .error error) :
    '\n' ∉ error.found.toList := by
  obtain ⟨read, rest, refused⟩ := Program.refused_of_parse_error rejected
  rw [refused.found_at]
  cases place : tokens[error.position]? with
  | none => decide
  | some token =>
    exact ((Listing.terminated_of_read listed).listable token (List.mem_of_getElem? place)).single

theorem plain_record {event : Event}
    (single : ∀ error, event = .rejected error → '\n' ∉ error.found.toList) :
    event.record.Plain where
  target := by
    cases event <;> simp [Event.record, Event.target]
  message := by
    cases event with
    | rejected error =>
      change '\n' ∉ error.reason.message.toList
      cases error.reason <;> decide
    | _ => simp [Event.record, Event.message]
  names := by
    cases event <;> simp [Event.record, Event.fields]
  texts name text member := by
    cases event with
    | statement position kind =>
      simp only [Event.record, Event.fields, List.mem_cons, Prod.mk.injEq, reduceCtorEq, and_false,
        false_or, List.not_mem_nil, or_false, Event.Value.plain.injEq] at member
      rw [member.2]
      exact Text.no_feed_of_solid (Kind.isBlank_name kind)
    | rejected error =>
      simp only [Event.record, Event.fields, List.mem_cons, Prod.mk.injEq, reduceCtorEq, and_false,
        false_or, List.not_mem_nil, or_false, Event.Value.plain.injEq] at member
      rw [member.2]
      exact single error rfl
    | _ => simp [Event.record, Event.fields] at member

theorem plain_of_mem_program {text : String} {tokens : List Token}
    (listed : Listing.read text = .ok tokens) {event : Event}
    (member : event ∈ (Program.run tokens).events) : event.record.Plain := by
  apply plain_record
  rintro error rfl
  obtain ⟨read, rest, next, last, told⟩ := Program.exists_told tokens
  rw [told.events] at member
  rcases List.mem_append.mp member with among | final
  · obtain ⟨start, -, impossible⟩ := List.mem_map.mp among
    cases impossible
  · obtain same := List.mem_singleton.mp final
    cases outcome : Program.parse tokens with
    | ok node =>
      obtain ⟨-, rfl, -⟩ := told.accepted node outcome
      cases same
    | error other =>
      obtain ⟨rfl, -⟩ := told.rejected other outcome
      cases same
      exact feed_not_mem_found listed outcome

theorem plain_of_mem_load (reader : Reader) (path : String) {event : Event}
    (member : event ∈ (load reader path).events) : event.record.Plain := by
  by_cases told : ∃ text tokens, reader path = .ok text ∧ Listing.read text = .ok tokens
  · obtain ⟨text, tokens, found, listed⟩ := told
    rw [events_of_listed found listed] at member
    rcases List.mem_cons.mp member with rfl | among
    · apply plain_record
      intro error impossible
      cases impossible
    · exact plain_of_mem_program listed among
  · rw [events_of_unlisted fun text tokens found listed => told ⟨text, tokens, found, listed⟩] at member
    cases member

theorem plain_of_mem_run (reader : Reader) (sink : Sink) (action : Action) (path : String)
    {event : Event} (member : event ∈ (run reader sink action path).events) :
    event.record.Plain := by
  cases loaded : (load reader path).result with
  | error failure =>
    rw [run_of_error loaded] at member
    exact plain_of_mem_load reader path member
  | ok program =>
    cases action with
    | parse =>
      rw [run_parse_of_ok loaded, events_printTree] at member
      exact plain_of_mem_load reader path member
    | check =>
      rw [run_check_of_ok loaded] at member
      rcases List.mem_append.mp member with among | last
      · exact plain_of_mem_load reader path among
      · obtain rfl := List.mem_singleton.mp last
        apply plain_record
        intro error impossible
        cases impossible

end Plain

theorem invocation_flags {matcher : Matcher} (matched : matcher.Documented)
    {arguments : List String} {action : Action} {path : String}
    (accepts : matcher.invocation arguments = .ok ⟨0, action, path⟩) {count : Nat}
    {flags : List String} (given : Flags count flags) :
    matcher.invocation (flags ++ arguments) = .ok ⟨min 255 count, action, path⟩ := by
  obtain ⟨before, after, found, total⟩ := (invocation_eq_ok_iff matched).mp accepts
  have unflagged : before = 0 ∧ after = 0 := by
    dsimp only at total
    split at total <;> omega
  obtain ⟨rfl, rfl⟩ := unflagged
  apply (invocation_eq_ok_iff matched).mpr
  exact ⟨count, 0, by rw [accepts_flags matched given rfl, found]; rfl, rfl⟩

theorem verdict_eq (verbosity other : Nat) (action : Action) (path : String)
    (result : Except Failure Unit) :
    verdict ⟨verbosity, action, path⟩ result = verdict ⟨other, action, path⟩ result := by
  cases result with
  | error failure => rfl
  | ok done => rfl

/-- For an invocation without verbosity flags there is a last text such that, with any flags put in
front of the arguments and any setting, code and output are the same, and the error output is a log
and this text. A readable setting makes the flags irrelevant to the log; without one, fewer flags
only leave out some of its lines. -/
theorem execute_verbose {matcher : Matcher} (matched : matcher.Documented) {logger : Logger}
    (logged : logger.Documented) {arguments : List String} {action : Action} {path : String}
    (accepts : matcher.invocation arguments = .ok ⟨0, action, path⟩) (reader : Reader)
    (sink : Sink) :
    let report := run reader sink action path
    let log (setting : Option logger.Setting) (count : Nat) : List String :=
      logger.lines (logger.choose setting (min 255 count)) report.events
    ∃ last : String,
      (∀ count flags, Flags count flags → ∀ setting,
        execute matcher logger reader sink setting (flags ++ arguments) =
          ⟨exitCode report.result, report.written, String.join (log setting count) ++ last⟩) ∧
      (∀ setting filter, setting.bind logger.read? = some filter →
        ∀ count other, log setting count = log setting other) ∧
      (∀ setting, setting.bind logger.read? = none →
        ∀ fewer more, fewer ≤ more → (log setting fewer).Sublist (log setting more)) ∧
      ∀ setting count, ∀ line ∈ log setting count,
        ∃ text, line = text ++ "\n" ∧ '\n' ∉ text.toList := by
  intro report log
  refine ⟨verdict ⟨0, action, path⟩ report.result, ?_, ?_, ?_, ?_⟩
  · intro count flags given setting
    rw [execute, invocation_flags matched accepts given]
    simp only [invoke]
    rw [verdict_eq _ 0]
  · intro setting filter readable count other
    simp only [log, Logger.choose_of_read readable]
  · intro setting unreadable fewer more less
    exact logged.lines_sublist unreadable (by omega) _
  · intro setting count line
    exact logged.line_of_mem_lines fun event => plain_of_mem_run reader sink action path

/-- Two hundred and fifty-six flags are not silent, and what follows two hyphens is no flag. A
setting that can be read rules alone, and one that cannot is passed over. -/
theorem execute_verbose_many :
    let exit (setting : Option String) (flags : List String) :=
      execute Terminal.matcher Terminal.logger (fun _ => .ok "eof") .full setting
        (flags ++ ["check", "--", "-v"])
    let listed := "INFO tinyc: read token listing path=\"-v\" tokens=1\n"
    let parsed := "DEBUG tinyc_parser::parser: parsed program statements=0\n"
    let checked := "INFO tinyc: syntax ok statements=0\n"
    let many := [String.ofList ('-' :: List.replicate 256 'v')]
    ∃ last, exit none [] = ⟨0, ByteArray.empty, last⟩ ∧
      exit none many = ⟨0, ByteArray.empty, listed ++ parsed ++ checked ++ last⟩ ∧
      exit (some "tinyc=nonsense") ["-v"] = ⟨0, ByteArray.empty, listed ++ checked ++ last⟩ ∧
      exit (some "warn,tinyc_parser=4") [] = ⟨0, ByteArray.empty, parsed ++ last⟩ ∧
      exit (some "warn,tinyc_parser=4") many = ⟨0, ByteArray.empty, parsed ++ last⟩ := by
  intro exit listed parsed checked many
  have accepts : Terminal.matcher.invocation ["check", "--", "-v"] = .ok ⟨0, .check, "-v"⟩ := rfl
  have given : Flags 256 many := .letters 255 .nil
  have report : run (fun _ => .ok "eof") .full .check "-v" =
      ⟨.ok (), ByteArray.empty, [.listed "-v" 1, .parsed 0, .checked 0]⟩ := by
    rfl
  let log (setting : Option String) (count : Nat) : String :=
    String.join (Terminal.logger.lines (Terminal.logger.choose setting (min 255 count))
      [.listed "-v" 1, .parsed 0, .checked 0])
  have silent : log none 0 = "" := by decide +kernel
  have talks : log none 256 = listed ++ parsed ++ checked := by decide +kernel
  have passes : log (some "tinyc=nonsense") 1 = listed ++ checked := by decide +kernel
  have rules : log (some "warn,tinyc_parser=4") 0 = parsed := by decide +kernel
  have alone : log (some "warn,tinyc_parser=4") 256 = parsed := by decide +kernel
  obtain ⟨last, runs, -, -, -⟩ := execute_verbose Terminal.documented_matcher
    Terminal.documented_logger accepts (fun _ => .ok "eof") .full
  rw [report] at runs
  refine ⟨last, ?_, ?_, ?_, ?_, ?_⟩
  · rw [← String.empty_append (s := last), ← silent]
    exact runs 0 [] .nil none
  · rw [← talks]
    exact runs 256 _ given none
  · rw [← passes]
    exact runs 1 ["-v"] (.letters 0 .nil) (some "tinyc=nonsense")
  · rw [← rules]
    exact runs 0 [] .nil (some "warn,tinyc_parser=4")
  · rw [← alone]
    exact runs 256 _ given (some "warn,tinyc_parser=4")

end StatementParser.Command
