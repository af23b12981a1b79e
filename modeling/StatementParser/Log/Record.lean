import StatementParser.Event
import StatementParser.Log.Level

/-!
What an event hands to the log: its level, the part of the program that reports it, a message, and
values by name.
-/
namespace StatementParser

/-- A path is given as a text of its own, the other texts as they are to be shown. -/
inductive Event.Value where
  | number (value : Nat)
  | plain (text : String)
  | path (text : String)
  deriving DecidableEq, Repr

structure Log.Record where
  level : Level
  target : String
  message : String
  fields : List (String × Event.Value)
  deriving DecidableEq, Repr

namespace Event

def level : Event → Log.Level
  | .statement _ _ => .trace
  | .parsed _ => .debug
  | .rejected _ => .debug
  | .listed _ _ => .info
  | .checked _ => .info

def target : Event → String
  | .statement _ _ => "tinyc_parser::parser"
  | .parsed _ => "tinyc_parser::parser"
  | .rejected _ => "tinyc_parser::parser"
  | .listed _ _ => "tinyc"
  | .checked _ => "tinyc"

def message : Event → String
  | .statement _ _ => "statement"
  | .parsed _ => "parsed program"
  | .rejected error => error.reason.message
  | .listed _ _ => "read token listing"
  | .checked _ => "syntax ok"

def fields : Event → List (String × Value)
  | .statement position kind => [("position", .number position), ("kind", .plain kind.name)]
  | .parsed statements => [("statements", .number statements)]
  | .rejected error => [("position", .number error.position), ("found", .plain error.found)]
  | .listed path tokens => [("path", .path path), ("tokens", .number tokens)]
  | .checked statements => [("statements", .number statements)]

def record (event : Event) : Log.Record :=
  ⟨event.level, event.target, event.message, event.fields⟩

end Event
end StatementParser
