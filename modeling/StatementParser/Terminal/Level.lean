import StatementParser.Log.Level

/-!
A level is written by its name in any case or by its rank.
-/
namespace StatementParser.Terminal.Level

open Log (Level)

def all : List Level :=
  [.off, .error, .warn, .info, .debug, .trace]

def label : Level → String
  | .off => "OFF"
  | .error => "ERROR"
  | .warn => "WARN"
  | .info => "INFO"
  | .debug => "DEBUG"
  | .trace => "TRACE"

def number? (text : List Char) : Option Nat :=
  let digits := if text.head? = some '+' then text.tail else text
  if digits ≠ [] ∧ digits.all Char.isDigit then
    some (digits.foldl (fun value digit => 10 * value + (digit.toNat - '0'.toNat)) 0)
  else none

def ofText? (text : List Char) : Option Level :=
  match number? text with
  | some rank => all.find? fun level => level.rank == rank
  | none => all.find? fun level => level.name.toList == text.map Char.toLower

end StatementParser.Terminal.Level
