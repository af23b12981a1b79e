import StatementParser.Proofs.Command.Stages
import StatementParser.Proofs.Command.Writing
import StatementParser.Proofs.Node.Rendering
import StatementParser.Proofs.Program.Events

/-!
What the two actions make of one file. Both fail in the same way before there is a program, and report
the same on the way to it. Then `check` only adds its verdict, whatever room there is for output, and
`parse` writes as much of its line as there is room for, and fails unless that is all of it.
-/
namespace StatementParser.Command

def TellsListing (path : String) (tokens : List Token) (events : List Event) : Prop :=
  ∃ told rest, events = told :: rest ∧ told.level = .info ∧ told.message = "read token listing" ∧
    told.fields = [("path", .path path), ("tokens", .number tokens.length)] ∧
    ∀ event ∈ rest, event.message ≠ "read token listing"

/-- The verdict is told last, with the number of statements that was told at the end of the parse.
-/
def AddsVerdict (before after : List Event) : Prop :=
  ∃ front outcome verdict count, before = front ++ [outcome] ∧ after = before ++ [verdict] ∧
    outcome.message = "parsed program" ∧ outcome.fields = [("statements", .number count)] ∧
    verdict.level = .info ∧ verdict.message = "syntax ok" ∧
    verdict.fields = [("statements", .number count)]

/-- The writer has taken as much of the line of a program as it has room for, and any less than all
of it is a failure. -/
structure Printed (writer : Writer) (state : writer.State) (program : Node) (report : Report) :
    Prop where
  begins : ∃ rest, report.written ++ rest = (program.render ++ "\n").toUTF8
  size : report.written.size = (writer.room state).elim (program.render ++ "\n").toUTF8.size
    (min · (program.render ++ "\n").toUTF8.size)
  handed : report.written = (writer.handEach state [program.render.toUTF8, "\n".toUTF8]).taken
  whole : report.result = .ok () ↔
    (writer.handEach state [program.render.toUTF8, "\n".toUTF8]).whole = true
  succeeds : report.result = .ok () ↔
    ∀ room ∈ writer.room state, (program.render ++ "\n").toUTF8.size ≤ room
  fails : report.result ≠ .ok () → report.result = .error (.unwritten .cut)

theorem Printed.written_eq {writer : Writer} {state : writer.State} {program : Node} {report : Report}
    (printed : Printed writer state program report) :
    report.written = (program.render ++ "\n").toUTF8.extract 0 report.written.size := by
  obtain ⟨rest, whole⟩ := printed.begins
  rw [← whole]
  exact (ByteArray.extract_append_eq_left rfl).symm

section Events

theorem message_ne_of_mem_events {tokens : List Token} {event : Event}
    (member : event ∈ (Program.run tokens).events) : event.message ≠ "read token listing" := by
  obtain ⟨read, rest, next, last, told⟩ := Program.exists_told tokens
  rw [told.events] at member
  rcases List.mem_append.mp member with among | final
  · obtain ⟨start, -, rfl⟩ := List.mem_map.mp among
    change "statement" ≠ _
    decide
  · obtain rfl := List.mem_singleton.mp final
    cases outcome : Program.parse tokens with
    | ok node =>
      obtain ⟨-, rfl, -⟩ := told.accepted node outcome
      change "parsed program" ≠ _
      decide
    | error error =>
      obtain ⟨rfl, -⟩ := told.rejected error outcome
      change error.reason.message ≠ _
      cases error.reason <;> decide

theorem exists_front_events {tokens : List Token} {program : Node}
    (parsed : Program.parse tokens = .ok program) :
    ∃ front, (Program.run tokens).events = front ++ [.parsed program.children.length] := by
  obtain ⟨read, rest, next, last, told⟩ := Program.exists_told tokens
  obtain ⟨-, rfl, -⟩ := told.accepted program parsed
  exact ⟨_, told.events⟩

variable {reader : Reader} {path text : String} {tokens : List Token}

theorem events_of_listed (found : reader path = .ok text) (listed : Listing.read text = .ok tokens) :
    (load reader path).events = .listed path tokens.length :: (Program.run tokens).events := by
  rw [load, found]
  simp only [listed]
  cases (Program.run tokens).result with
  | error error => rfl
  | ok program => rfl

theorem events_of_unlisted
    (unlisted : ∀ text tokens, reader path = .ok text → Listing.read text ≠ .ok tokens) :
    (load reader path).events = [] := by
  rw [load]
  cases found : reader path with
  | error fault => rfl
  | ok text =>
    cases listed : Listing.read text with
    | error error => simp only [listed]
    | ok tokens => exact absurd listed (unlisted text tokens found)

end Events

section Load

variable {reader : Reader} {path : String}

theorem load_stages (reader : Reader) (path : String) :
    (∃ fault, (load reader path).result = .error (.unreadable path fault)) ∨
      (∃ error, (load reader path).result = .error (.malformed path error)) ∨
      ∃ text tokens, reader path = .ok text ∧ Listing.read text = .ok tokens ∧
        (load reader path).result = (Program.parse tokens).mapError (.rejected path) := by
  cases found : reader path with
  | error fault => exact .inl ⟨fault, load_of_unreadable found⟩
  | ok text =>
    cases listed : Listing.read text with
    | error error => exact .inr (.inl ⟨error, load_of_malformed found listed⟩)
    | ok tokens => exact .inr (.inr ⟨text, tokens, rfl, listed, load_of_listed found listed⟩)

theorem exists_listed_of_load {program : Node} (loaded : (load reader path).result = .ok program) :
    ∃ text tokens, reader path = .ok text ∧ Listing.read text = .ok tokens ∧
      Program.parse tokens = .ok program := by
  rcases load_stages reader path with ⟨fault, failed⟩ | ⟨error, failed⟩ |
      ⟨text, tokens, found, listed, result⟩
  · rw [failed] at loaded
    cases loaded
  · rw [failed] at loaded
    cases loaded
  · rw [result] at loaded
    cases parsed : Program.parse tokens with
    | error error =>
      rw [parsed] at loaded
      cases loaded
    | ok other =>
      rw [parsed] at loaded
      cases loaded
      exact ⟨text, tokens, found, listed, parsed⟩

theorem ne_unwritten_of_load {failure : Failure} (failed : (load reader path).result = .error failure)
    (fault : WriteFault) : failure ≠ .unwritten fault := by
  rintro rfl
  rcases load_stages reader path with ⟨other, result⟩ | ⟨error, result⟩ | ⟨text, tokens, -, -, result⟩
  · rw [result] at failed
    cases failed
  · rw [result] at failed
    cases failed
  · rw [result] at failed
    cases parsed : Program.parse tokens with
    | error error =>
      rw [parsed] at failed
      cases failed
    | ok program =>
      rw [parsed] at failed
      cases failed

theorem tellsListing_of_listed {text : String} {tokens : List Token} (found : reader path = .ok text)
    (listed : Listing.read text = .ok tokens) : TellsListing path tokens (load reader path).events := by
  refine ⟨_, _, events_of_listed found listed, rfl, rfl, rfl, ?_⟩
  intro event
  exact message_ne_of_mem_events

theorem TellsListing.append {tokens : List Token} {events : List Event}
    (tells : TellsListing path tokens events) (count : Nat) :
    TellsListing path tokens (events ++ [.checked count]) := by
  obtain ⟨told, rest, rfl, level, message, fields, others⟩ := tells
  refine ⟨told, rest ++ [.checked count], rfl, level, message, fields, ?_⟩
  rw [List.forall_mem_append, List.forall_mem_singleton]
  refine ⟨others, ?_⟩
  change "syntax ok" ≠ _
  decide

theorem addsVerdict_of_ok {program : Node} (loaded : (load reader path).result = .ok program) :
    AddsVerdict (load reader path).events
      ((load reader path).events ++ [.checked program.children.length]) := by
  obtain ⟨text, tokens, found, listed, parsed⟩ := exists_listed_of_load loaded
  obtain ⟨front, told⟩ := exists_front_events parsed
  refine ⟨.listed path tokens.length :: front, .parsed program.children.length,
    .checked program.children.length, program.children.length, ?_, rfl, rfl, rfl, rfl, rfl, rfl⟩
  rw [events_of_listed found listed, told, List.cons_append]

end Load

section Print

theorem joined_pieces (program : Node) :
    Writer.joined [program.render.toUTF8, "\n".toUTF8] = output program := by
  change program.render.toUTF8 ++ ("\n".toUTF8 ++ ByteArray.empty) = _
  rw [ByteArray.append_empty]
  exact String.toByteArray_append.symm

variable {sink : Sink} {program : Node} {events : List Event}

theorem written_printTree : (printTree sink program events).written = sink.accepted (output program) := by
  unfold printTree
  dsimp only
  split
  · rfl
  · rfl

theorem events_printTree : (printTree sink program events).events = events := by
  unfold printTree
  dsimp only
  split
  · rfl
  · rfl

theorem result_printTree_of_fits (fits : sink.fits (output program) = true) :
    (printTree sink program events).result = .ok () := by
  simp only [printTree, if_pos fits]

theorem result_printTree_of_not_fits (tooLong : ¬sink.fits (output program) = true) :
    (printTree sink program events).result = .error (.unwritten sink.fault) := by
  simp only [printTree, if_neg tooLong]

theorem result_printTree_iff :
    (printTree sink program events).result = .ok () ↔ sink.fits (output program) = true := by
  by_cases fits : sink.fits (output program) = true
  · exact iff_of_true (result_printTree_of_fits fits) fits
  · refine iff_of_false ?_ fits
    rw [result_printTree_of_not_fits fits]
    intro impossible
    cases impossible

theorem printed_printTree (writer : Writer) (state : writer.State) (program : Node)
    (events : List Event) :
    Printed writer state program (printTree (writer.sink state) program events) := by
  obtain ⟨whole, taken⟩ := writer.handEach_spec state [program.render.toUTF8, "\n".toUTF8]
  rw [joined_pieces] at whole taken
  constructor
  · rw [written_printTree]
    exact Sink.exists_accepted_append _ _
  · rw [written_printTree]
    exact Sink.size_accepted _ _
  · rw [written_printTree, taken]
  · rw [result_printTree_iff, whole]
  · exact result_printTree_iff.trans Sink.fits_iff
  · intro unsuccessful
    exact result_printTree_of_not_fits fun fits => unsuccessful (result_printTree_of_fits fits)

end Print

section Log

variable {reader : Reader} {path : String}

theorem tellsListing_run {text : String} {tokens : List Token} (found : reader path = .ok text)
    (listed : Listing.read text = .ok tokens) (sink : Sink) (action : Action) :
    TellsListing path tokens (run reader sink action path).events := by
  have tells := tellsListing_of_listed found listed
  cases loaded : (load reader path).result with
  | error failure =>
    rw [run_of_error loaded]
    exact tells
  | ok program =>
    cases action with
    | parse =>
      rw [run_parse_of_ok loaded, events_printTree]
      exact tells
    | check =>
      rw [run_check_of_ok loaded]
      exact tells.append program.children.length

theorem events_run_of_unlisted
    (unlisted : ∀ text tokens, reader path = .ok text → Listing.read text ≠ .ok tokens) (sink : Sink)
    (action : Action) : (run reader sink action path).events = [] := by
  cases loaded : (load reader path).result with
  | error failure =>
    rw [run_of_error loaded]
    exact events_of_unlisted unlisted
  | ok program =>
    obtain ⟨text, tokens, found, listed, -⟩ := exists_listed_of_load loaded
    exact absurd listed (unlisted text tokens found)

end Log

/-- Without a program `parse` and `check` fail in the same way and write nothing. With one, `check`
succeeds, writes nothing and adds its verdict to what `parse` reports, and `parse` writes as much of
its line as the writer takes. Both tell of a listing just if one was read. -/
theorem run_agrees (reader : Reader) (path : String) (writer : Writer) (state : writer.State) :
    let parsed := run reader (writer.sink state) .parse path
    let checked := run reader (writer.sink state) .check path
    (∀ failure, checked.result = .error failure ↔
        parsed.result = .error failure ∧ ∀ fault, failure ≠ .unwritten fault) ∧
      (∀ failure, (load reader path).result = .error failure →
        checked = ⟨.error failure, ByteArray.empty, parsed.events⟩ ∧ parsed = checked) ∧
      (∀ program, (load reader path).result = .ok program →
        checked.result = .ok () ∧ checked.written = ByteArray.empty ∧
          AddsVerdict parsed.events checked.events ∧ Printed writer state program parsed) ∧
      (∀ text tokens, reader path = .ok text → Listing.read text = .ok tokens →
        TellsListing path tokens parsed.events ∧ TellsListing path tokens checked.events) ∧
      ((∀ text tokens, reader path = .ok text → Listing.read text ≠ .ok tokens) →
        parsed.events = [] ∧ checked.events = []) := by
  intro parsed checked
  have tells : ∀ text tokens, reader path = .ok text → Listing.read text = .ok tokens →
      TellsListing path tokens parsed.events ∧ TellsListing path tokens checked.events :=
    fun _ _ found listed =>
      ⟨tellsListing_run found listed _ .parse, tellsListing_run found listed _ .check⟩
  have silent : (∀ text tokens, reader path = .ok text → Listing.read text ≠ .ok tokens) →
      parsed.events = [] ∧ checked.events = [] :=
    fun unlisted => ⟨events_run_of_unlisted unlisted _ .parse, events_run_of_unlisted unlisted _ .check⟩
  cases loaded : (load reader path).result with
  | error failure =>
    have one : parsed = ⟨.error failure, ByteArray.empty, (load reader path).events⟩ :=
      run_of_error loaded
    have other : checked = ⟨.error failure, ByteArray.empty, (load reader path).events⟩ :=
      run_of_error loaded
    refine ⟨fun reason => ⟨?_, ?_⟩, ?_, ?_, tells, silent⟩
    · intro same
      rw [other] at same
      cases same
      exact ⟨congrArg Report.result one, ne_unwritten_of_load loaded⟩
    · rintro ⟨same, -⟩
      rw [one] at same
      cases same
      exact congrArg Report.result other
    · intro reason same
      cases same
      rw [one, other]
      exact ⟨rfl, rfl⟩
    · intro program impossible
      cases impossible
  | ok program =>
    have one : parsed = printTree (writer.sink state) program (load reader path).events :=
      run_parse_of_ok loaded
    have other : checked = ⟨.ok (), ByteArray.empty,
        (load reader path).events ++ [.checked program.children.length]⟩ := run_check_of_ok loaded
    have printed : Printed writer state program parsed := by
      rw [one]
      exact printed_printTree writer state program _
    refine ⟨fun reason => ⟨?_, ?_⟩, ?_, ?_, tells, silent⟩
    · intro impossible
      rw [other] at impossible
      cases impossible
    · rintro ⟨same, output⟩
      have cut := printed.fails fun done => by
        rw [same] at done
        cases done
      rw [same] at cut
      cases cut
      exact absurd rfl (output .cut)
    · intro reason impossible
      cases impossible
    · intro result same
      cases same
      rw [other]
      refine ⟨rfl, rfl, ?_, printed⟩
      rw [one, events_printTree]
      exact addsVerdict_of_ok loaded

theorem run_agrees_cut :
    let reader : Reader := fun path =>
      if path = "a" then .ok "int\nidentifier \u00e9\nsemicolon" else .error .notFound
    let parsed (room : Nat) := run reader (Writer.bytewise.sink room) .parse "a"
    let checked (room : Nat) := run reader (Writer.bytewise.sink room) .check "a"
    let lost (room : Nat) := run reader (Writer.bytewise.sink room) .parse "b"
    (parsed 18).written = "(statements (int ".toUTF8 ++ ⟨#[0xc3]⟩ ∧
      (parsed 18).result = .error (.unwritten .cut) ∧
      (parsed 21).written = "(statements (int \u00e9))".toUTF8 ∧
      (parsed 21).result = .error (.unwritten .cut) ∧
      (checked 0).result = .ok () ∧ AddsVerdict (parsed 0).events (checked 0).events ∧
      TellsListing "a" [⟨.intWord, "int"⟩, ⟨.identifier, "\u00e9"⟩, ⟨.semicolon, ";"⟩, .eof]
        (checked 0).events ∧
      (lost 0).written = ByteArray.empty ∧ (lost 0).events = [] := by
  intro reader parsed checked lost
  have found : reader "a" = .ok "int\nidentifier \u00e9\nsemicolon" := rfl
  have missing : reader "b" = .error .notFound := rfl
  have listed : Listing.read "int\nidentifier \u00e9\nsemicolon" =
      .ok [⟨.intWord, "int"⟩, ⟨.identifier, "\u00e9"⟩, ⟨.semicolon, ";"⟩, .eof] := rfl
  have loaded : (load reader "a").result =
      .ok (.statements [⟨.declaration, some "int", [.identifier "\u00e9"]⟩]) := by
    rw [load_of_listed found listed]
    rfl
  have line : (Node.render (.statements [⟨.declaration, some "int", [.identifier "\u00e9"]⟩]) ++
      "\n").toUTF8 = "(statements (int \u00e9))\n".toUTF8 := by
    rw [Node.render_eq_of_compound (by decide)]
    rfl
  have prints (room : Nat) (short : room ≤ 21) :
      (parsed room).written = "(statements (int \u00e9))\n".toUTF8.extract 0 room ∧
        (parsed room).result = .error (.unwritten .cut) := by
    obtain ⟨-, -, -, printed⟩ := (run_agrees reader "a" .bytewise room).2.2.1 _ loaded
    have bytes : "(statements (int \u00e9))\n".toUTF8.size = 22 := by decide +kernel
    have size := printed.size
    have succeeds := printed.succeeds
    have written := printed.written_eq
    rw [line] at size succeeds written
    rw [bytes] at size succeeds
    have taken : (parsed room).written.size = room := size.trans (Nat.min_eq_left (by omega))
    constructor
    · rw [written, taken]
    · apply printed.fails
      intro done
      have bound := succeeds.mp done room rfl
      omega
  have unlisted : ∀ text tokens, reader "b" = .ok text → Listing.read text ≠ .ok tokens := by
    intro text tokens impossible
    rw [missing] at impossible
    cases impossible
  obtain ⟨within, cut⟩ := prints 18 (by decide)
  obtain ⟨tree, also⟩ := prints 21 (by decide)
  obtain ⟨-, -, full, listing, -⟩ := run_agrees reader "a" .bytewise (0 : Nat)
  obtain ⟨-, fails, -, -, silent⟩ := run_agrees reader "b" .bytewise (0 : Nat)
  obtain ⟨done, -, verdict, -⟩ := full _ loaded
  obtain ⟨-, tells⟩ := listing _ _ found listed
  obtain ⟨nothing, same⟩ := fails _ (load_of_unreadable missing)
  refine ⟨?_, cut, ?_, also, done, verdict, tells, ?_, (silent unlisted).1⟩
  · rw [within]
    decide +kernel
  · rw [tree]
    decide +kernel
  · exact congrArg Report.written (same.trans nothing)

end StatementParser.Command
