import StatementParser.Command.Process
import StatementParser.Terminal.Help
import StatementParser.Terminal.Log

/-!
The program: arguments, log setting and file come from the system, and what a process would leave
behind goes back to it.
-/
namespace StatementParser.Main

def systemCode (code : UInt32) : Nat :=
  min code.toNat (UInt32.size - code.toNat)

def readFault : IO.Error → ReadFault
  | .noFileOrDirectory _ _ _ => .notFound
  | .inappropriateType _ code _ => if systemCode code = 21 then .isFolder else .notFolder
  | .invalidArgument _ code _ => if systemCode code = 36 then .nameTooLong else .nulInPath
  | error => .other (toString error)

def readText (path : String) : IO (Except ReadFault String) := do
  try
    pure (Files.textOf (← IO.FS.readBinFile path))
  catch error => pure (.error (readFault error))

def reader (arguments : List String) : IO Command.Reader := do
  match Terminal.matcher.invocation arguments with
  | .ok invocation =>
    let text ← readText invocation.path
    pure fun _ => text
  | .error _ => pure fun _ => .error .notFound

def writeAll (content : ByteArray) : IO Bool := do
  let output ← IO.getStdout
  try
    output.write content
    output.flush
    pure true
  catch _ => pure false

def run (arguments : List String) : IO UInt32 := do
  let setting ← IO.getEnv "RUST_LOG"
  let source ← reader arguments
  let outcome (sink : Command.Sink) : Command.Exit :=
    Command.execute Terminal.matcher Terminal.logger source sink setting arguments
  let complete ← writeAll (outcome .unlimited).written
  let final := if complete then outcome .unlimited else outcome .full
  (← IO.getStderr).putStr final.diagnostics
  pure (UInt32.ofNat final.code)

end StatementParser.Main

def main (arguments : List String) : IO UInt32 :=
  StatementParser.Main.run arguments
