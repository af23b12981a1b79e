import StatementParser.Command.Process

/-!
The stages of a run. The bytes of a file are fetched and decoded, the text is read as a listing, and
the tokens are parsed; the first stage that fails gives the diagnostic. What a process writes in the
end depends on this outcome alone, with its log in front.
-/
namespace StatementParser

def Files.fetch (files : Files) (path : String) : Except ReadFault ByteArray := do
  let place ← files.locate path
  files.contentAt place

namespace Command

def decoded (access : String → Except ReadFault ByteArray) : Reader := fun path => do
  let content ← access path
  Files.textOf content

theorem decoded_fetch (files : Files) : decoded files.fetch = files.read := by
  funext path
  rw [decoded, Files.fetch, Files.read, bind_assoc]

/-- What comes of the file at a path: its program, or the diagnostic of the first stage that fails.
-/
inductive Yields (access : String → Except ReadFault ByteArray) (path : String) :
    Except String Node → Prop where
  | unreadable {fault : ReadFault} (missing : access path = .error fault) :
      Yields access path (.error ("Error reading " ++ path ++ ": " ++ fault.message))
  | undecodable {content : ByteArray} (found : access path = .ok content)
      (garbled : String.fromUTF8? content = none) :
      Yields access path
        (.error ("Error reading " ++ path ++ ": stream did not contain valid UTF-8"))
  | malformed {content : ByteArray} {text : String} {error : Listing.Error}
      (found : access path = .ok content) (decodes : String.fromUTF8? content = some text)
      (refused : Listing.read text = .error error) :
      Yields access path (.error (path ++ ": Listing error at line " ++ toString error.line ++ ": " ++
        error.fault.message))
  | rejected {content : ByteArray} {text : String} {tokens : List Token} {error : SyntaxError}
      (found : access path = .ok content) (decodes : String.fromUTF8? content = some text)
      (listed : Listing.read text = .ok tokens) (refused : Program.parse tokens = .error error) :
      Yields access path (.error (path ++ ": Syntax error at token " ++ toString error.position ++
        ": " ++ error.reason.message ++ ", found '" ++ error.found ++ "'"))
  | accepted {content : ByteArray} {text : String} {tokens : List Token} {program : Node}
      (found : access path = .ok content) (decodes : String.fromUTF8? content = some text)
      (listed : Listing.read text = .ok tokens) (parsed : Program.parse tokens = .ok program) :
      Yields access path (.ok program)

variable {access : String → Except ReadFault ByteArray} {path : String}

theorem exists_yields (access : String → Except ReadFault ByteArray) (path : String) :
    ∃ outcome, Yields access path outcome := by
  cases found : access path with
  | error fault => exact ⟨_, .unreadable found⟩
  | ok content =>
    cases decodes : String.fromUTF8? content with
    | none => exact ⟨_, .undecodable found decodes⟩
    | some text =>
      cases listed : Listing.read text with
      | error error => exact ⟨_, .malformed found decodes listed⟩
      | ok tokens =>
        cases parsed : Program.parse tokens with
        | error error => exact ⟨_, .rejected found decodes listed parsed⟩
        | ok program => exact ⟨_, .accepted found decodes listed parsed⟩

theorem decoded_of_error {fault : ReadFault} (missing : access path = .error fault) :
    decoded access path = .error fault := by
  rw [decoded, missing]
  rfl

theorem decoded_of_none {content : ByteArray} (found : access path = .ok content)
    (garbled : String.fromUTF8? content = none) : decoded access path = .error .notText := by
  rw [decoded, found]
  change Files.textOf content = _
  rw [Files.textOf, garbled]

theorem decoded_of_some {content : ByteArray} {text : String} (found : access path = .ok content)
    (decodes : String.fromUTF8? content = some text) : decoded access path = .ok text := by
  rw [decoded, found]
  change Files.textOf content = _
  rw [Files.textOf, decodes]

theorem load_of_unreadable {reader : Reader} {fault : ReadFault}
    (missing : reader path = .error fault) :
    (load reader path).result = .error (.unreadable path fault) := by
  rw [load, missing]

theorem load_of_malformed {reader : Reader} {text : String} {error : Listing.Error}
    (found : reader path = .ok text) (refused : Listing.read text = .error error) :
    (load reader path).result = .error (.malformed path error) := by
  rw [load, found]
  simp only [refused]

theorem load_of_listed {reader : Reader} {text : String} {tokens : List Token}
    (found : reader path = .ok text) (listed : Listing.read text = .ok tokens) :
    (load reader path).result = (Program.parse tokens).mapError (.rejected path) := by
  rw [load, found, Program.parse]
  simp only [listed]
  cases (Program.run tokens).result with
  | error error => rfl
  | ok program => rfl

theorem message_notText (path : String) :
    (Failure.unreadable path .notText).message =
      "Error reading " ++ path ++ ": stream did not contain valid UTF-8" := by
  have words : ": " ++ "stream did not contain valid UTF-8" =
      ": stream did not contain valid UTF-8" := by decide
  change "Error reading " ++ path ++ ": " ++ "stream did not contain valid UTF-8" = _
  rw [← words, ← String.append_assoc]

theorem message_malformed (path : String) (error : Listing.Error) :
    (Failure.malformed path error).message = path ++ ": Listing error at line " ++
      toString error.line ++ ": " ++ error.fault.message := by
  have words : ": " ++ "Listing error at line " = ": Listing error at line " := by decide
  change path ++ ": " ++ ("Listing error at line " ++ toString error.line ++ ": " ++
    error.fault.message) = _
  rw [← words]
  simp only [String.append_assoc, -String.reduceAppend]

theorem message_rejected (path : String) (error : SyntaxError) :
    (Failure.rejected path error).message = path ++ ": Syntax error at token " ++
      toString error.position ++ ": " ++ error.reason.message ++ ", found '" ++ error.found ++
        "'" := by
  have words : ": " ++ "Syntax error at token " = ": Syntax error at token " := by decide
  change path ++ ": " ++ ("Syntax error at token " ++ toString error.position ++ ": " ++
    error.reason.message ++ ", found '" ++ error.found ++ "'") = _
  rw [← words]
  simp only [String.append_assoc, -String.reduceAppend]

theorem load_of_yields {outcome : Except String Node} (yields : Yields access path outcome) :
    (load (decoded access) path).result.mapError Failure.message = outcome := by
  cases yields with
  | unreadable missing =>
    rw [load_of_unreadable (decoded_of_error missing)]
    rfl
  | undecodable found garbled =>
    rw [load_of_unreadable (decoded_of_none found garbled)]
    exact congrArg Except.error (message_notText path)
  | malformed found decodes refused =>
    rw [load_of_malformed (decoded_of_some found decodes) refused]
    exact congrArg Except.error (message_malformed path _)
  | rejected found decodes listed refused =>
    rw [load_of_listed (decoded_of_some found decodes) listed, refused]
    exact congrArg Except.error (message_rejected path _)
  | accepted found decodes listed parsed =>
    rw [load_of_listed (decoded_of_some found decodes) listed, parsed]
    rfl

theorem Yields.unique {outcome other : Except String Node} (yields : Yields access path outcome)
    (also : Yields access path other) : outcome = other := by
  rw [← load_of_yields yields, load_of_yields also]

theorem load_of_yields_ok {program : Node} (yields : Yields access path (.ok program)) :
    (load (decoded access) path).result = .ok program := by
  have outcome := load_of_yields yields
  cases result : (load (decoded access) path).result with
  | error failure =>
    rw [result] at outcome
    cases outcome
  | ok other =>
    rw [result] at outcome
    cases outcome
    rfl

theorem load_of_yields_error {diagnostic : String} (yields : Yields access path (.error diagnostic)) :
    ∃ failure, (load (decoded access) path).result = .error failure ∧
      failure.message = diagnostic := by
  have outcome := load_of_yields yields
  cases result : (load (decoded access) path).result with
  | error failure =>
    rw [result] at outcome
    cases outcome
    exact ⟨failure, rfl, rfl⟩
  | ok program =>
    rw [result] at outcome
    cases outcome

section

variable {reader : Reader} {sink : Sink}

theorem run_of_error {action : Action} {failure : Failure}
    (failed : (load reader path).result = .error failure) :
    run reader sink action path = ⟨.error failure, ByteArray.empty, (load reader path).events⟩ := by
  unfold run
  simp only [failed]

theorem run_parse_of_ok {program : Node} (loaded : (load reader path).result = .ok program) :
    run reader sink .parse path = printTree sink program (load reader path).events := by
  unfold run
  simp only [loaded]

theorem run_check_of_ok {program : Node} (loaded : (load reader path).result = .ok program) :
    run reader sink .check path = ⟨.ok (), ByteArray.empty,
      (load reader path).events ++ [.checked program.children.length]⟩ := by
  unfold run
  simp only [loaded]

section Invoke

variable {logger : Log.Logger} (setting : Option logger.Setting)

theorem invoke_of_error {invocation : Invocation} {failure : Failure}
    (failed : (load reader invocation.path).result = .error failure) :
    ∃ log, invoke logger reader sink setting invocation =
      ⟨1, ByteArray.empty, log ++ (failure.message ++ "\n")⟩ := by
  unfold invoke
  rw [run_of_error failed]
  exact ⟨_, rfl⟩

theorem invoke_parse_of_ok (verbosity : Nat) {program : Node}
    (loaded : (load reader path).result = .ok program) (fits : sink.fits (output program) = true) :
    ∃ log, invoke logger reader sink setting ⟨verbosity, .parse, path⟩ =
      ⟨0, sink.accepted (output program), log⟩ := by
  unfold invoke
  rw [run_parse_of_ok loaded]
  simp only [printTree, if_pos fits]
  exact ⟨_, rfl⟩

end Invoke

end

end Command
end StatementParser
