import StatementParser.Command.Interface
import StatementParser.Command.Run
import StatementParser.Log.Logger

/-!
A whole process: its arguments, the setting of its log, and its standard output go in; its exit code
and what stands on the two outputs come out. Log lines come first on the error output, then one line
that tells the outcome.
-/
namespace StatementParser.Command

open Log (Logger)

structure Exit where
  code : Nat
  written : ByteArray
  diagnostics : String

def verdict (invocation : Invocation) : Except Failure Unit → String
  | .error failure => failure.message ++ "\n"
  | .ok () =>
    match invocation.action with
    | .parse => ""
    | .check => "OK: " ++ invocation.path ++ "\n"

def exitCode : Except Failure Unit → Nat
  | .ok () => 0
  | .error _ => 1

/-- A text asked for is written as far as it fits, and that never counts as a failure. -/
def stop (sink : Sink) (refusal : Refusal) : Exit :=
  ⟨refusal.code, sink.accepted refusal.output.toUTF8, refusal.diagnostics⟩

def invoke (logger : Logger) (reader : Reader) (sink : Sink) (setting : Option logger.Setting)
    (invocation : Invocation) : Exit :=
  let report := run reader sink invocation.action invocation.path
  let filter := logger.choose setting invocation.verbosity
  ⟨exitCode report.result, report.written,
    String.join (logger.lines filter report.events) ++ verdict invocation report.result⟩

def execute (matcher : Matcher) (logger : Logger) (reader : Reader) (sink : Sink)
    (setting : Option logger.Setting) (arguments : List String) : Exit :=
  match matcher.invocation arguments with
  | .ok invocation => invoke logger reader sink setting invocation
  | .error refusal => stop sink refusal

end StatementParser.Command
