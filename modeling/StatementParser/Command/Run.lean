import StatementParser.Command.Interface
import StatementParser.Files
import StatementParser.Listing
import StatementParser.Node.Sexpr
import StatementParser.Program

/-!
An action reads a listing, parses it, and for `parse` writes the tree on one line. Each stage can
fail, and the first failure is the outcome. What was written and what was reported is kept in every
case.
-/
namespace StatementParser.Command

inductive WriteFault where
  | cut
  | deviceFull
  deriving DecidableEq, Repr

def WriteFault.message : WriteFault → String
  | .cut => "failed to write whole buffer"
  | .deviceFull => "No space left on device (os error 28)"

/-- Where output goes. It takes as many bytes as it has room for, and without a bound all; when some
are left over, the writing ends in the given fault. -/
structure Sink where
  room : Option Nat
  fault : WriteFault
  deriving DecidableEq, Repr

def Sink.unlimited : Sink :=
  ⟨none, .cut⟩

def Sink.full : Sink :=
  ⟨some 0, .deviceFull⟩

def Sink.accepted (sink : Sink) (content : ByteArray) : ByteArray :=
  match sink.room with
  | none => content
  | some room => content.extract 0 room

def Sink.fits (sink : Sink) (content : ByteArray) : Bool :=
  match sink.room with
  | none => true
  | some room => content.size ≤ room

inductive Failure where
  | unreadable (path : String) (fault : ReadFault)
  | malformed (path : String) (error : Listing.Error)
  | rejected (path : String) (error : SyntaxError)
  | unwritten (fault : WriteFault)
  deriving DecidableEq, Repr

def Failure.message : Failure → String
  | .unreadable path fault => "Error reading " ++ path ++ ": " ++ fault.message
  | .malformed path error => path ++ ": " ++ error.message
  | .rejected path error => path ++ ": " ++ error.message
  | .unwritten fault => "Error writing output: " ++ fault.message

abbrev Reader := String → Except ReadFault String

/-- The program in a file, or the failure that kept it back, and what was reported meanwhile. -/
structure Loaded where
  result : Except Failure Node
  events : List Event

def load (reader : Reader) (path : String) : Loaded :=
  match reader path with
  | .error fault => ⟨.error (.unreadable path fault), []⟩
  | .ok text =>
    match Listing.read text with
    | .error error => ⟨.error (.malformed path error), []⟩
    | .ok tokens =>
      let outcome := Program.run tokens
      let events := .listed path tokens.length :: outcome.events
      match outcome.result with
      | .error error => ⟨.error (.rejected path error), events⟩
      | .ok program => ⟨.ok program, events⟩

structure Report where
  result : Except Failure Unit
  written : ByteArray
  events : List Event

def output (program : Node) : ByteArray :=
  (program.render ++ "\n").toUTF8

def printTree (sink : Sink) (program : Node) (events : List Event) : Report :=
  let content := output program
  if sink.fits content then ⟨.ok (), sink.accepted content, events⟩
  else ⟨.error (.unwritten sink.fault), sink.accepted content, events⟩

def run (reader : Reader) (sink : Sink) (action : Action) (path : String) : Report :=
  let loaded := load reader path
  match loaded.result, action with
  | .error failure, _ => ⟨.error failure, ByteArray.empty, loaded.events⟩
  | .ok program, .parse => printTree sink program loaded.events
  | .ok program, .check =>
    ⟨.ok (), ByteArray.empty, loaded.events ++ [.checked program.children.length]⟩

end StatementParser.Command
