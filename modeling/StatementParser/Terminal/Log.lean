import StatementParser.Log.Logger
import StatementParser.Terminal.Filter
import StatementParser.Terminal.Text.Quoted

/-!
The log lines of a terminal: level, target and message, and the fields by name, paths in quotes and
all other values as they are.
-/
namespace StatementParser.Terminal

open Log (Logger Record)

def shown : Event.Value → String
  | .number value => toString value
  | .plain text => text
  | .path text => Text.quoted text

def writeField (field : String × Event.Value) : String :=
  " " ++ field.1 ++ "=" ++ shown field.2

def line (record : Record) : String :=
  Level.label record.level ++ " " ++ record.target ++ ": " ++ record.message ++
    String.join (record.fields.map writeField) ++ "\n"

def logger : Logger where
  Setting := String
  Filter := Filter
  read? := Filter.read?
  ofText text := (Filter.read? text).getD []
  keeps := Filter.keeps
  line := line

end StatementParser.Terminal
