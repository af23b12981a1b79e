import StatementParser.Terminal.Level
import StatementParser.Terminal.Text.Bytes
import StatementParser.Terminal.Value
import StatementParser.Text.Blank

/-!
One entry of a filter sets the level of the events of a target. It may ask for a field, by name, or
for a span, by its name or by the value of a field; the program opens no span, so an entry that asks
for one rules over nothing. An entry is written as its target, its demand in square brackets and,
behind an equality sign, its level; each part may be left out, and without a level everything is
logged.
-/
namespace StatementParser.Terminal

open Log (Level)

inductive Demand where
  | nothing
  | field (name : String)
  | span
  deriving DecidableEq, Repr

/-- An entry rules over all targets that begin with the one it names; an empty one begins each. -/
structure Entry where
  target : String
  demand : Demand
  level : Level
  deriving DecidableEq, Repr

namespace Entry

def covers (entry : Entry) (target : String) (fields : List String) : Bool :=
  entry.target.toList.isPrefixOf target.toList &&
    match entry.demand with
    | .nothing => true
    | .field name => fields.contains name
    | .span => false

def asked (entry : Entry) : List String :=
  match entry.demand with
  | .field name => [name]
  | _ => []

/-- An entry is preferred for a longer target, then for asking for a field, then for the later of
two names. -/
def below (entry other : Entry) : Bool :=
  entry.target.length < other.target.length ||
    entry.target.length = other.target.length && decide (entry.asked < other.asked)

/-- Where the parts of an entry lie: the end of the target, both ends of the span's name and of the
field, and the beginning of the level. Offsets count bytes. -/
structure Layout where
  target : Nat
  span : Option (Nat × Nat)
  field : Option (Nat × Nat)
  level : Option Nat
  deriving DecidableEq, Repr

def Layout.close (layout : Layout) (offset : Nat) : List Char → Option Layout
  | [] => some layout
  | '=' :: _ => some { layout with level := some (offset + 1) }
  | _ => none

def demandLayout? (target offset : Nat) (text : List Char) : Option Layout :=
  let name := text.takeWhile fun c => c != ']' && c != '\x7b'
  let nameEnd := offset + Text.bytes name
  match text.drop name.length with
  | ']' :: rest => Layout.close ⟨target, some (offset, nameEnd), none, none⟩ (nameEnd + 1) rest
  | '\x7b' :: rest =>
    let field := rest.takeWhile (· != '\x7d')
    let fieldEnd := nameEnd + 1 + Text.bytes field
    match rest.drop field.length with
    | '\x7d' :: ']' :: rest =>
      Layout.close ⟨target, some (offset, nameEnd), some (nameEnd + 1, fieldEnd), none⟩
        (fieldEnd + 2) rest
    | _ => none
  | _ => none

def beginsTarget (c : Char) : Bool :=
  Text.isAlphanumeric c || c = '-' || c = ':' || c = '_'

def layout? (text : List Char) : Option Layout :=
  match text with
  | [] => none
  | '[' :: rest => demandLayout? 0 1 rest
  | first :: _ =>
    if beginsTarget first then
      let target := text.takeWhile fun c => c != '=' && c != '['
      match text.drop target.length with
      | '[' :: rest => demandLayout? (Text.bytes target) (Text.bytes target + 1) rest
      | rest => Layout.close ⟨Text.bytes target, none, none, none⟩ (Text.bytes target) rest
    else none

def fieldDemand? (text : List Char) : Option Demand :=
  match text.dropWhile (· != '=') with
  | [] => if text.isEmpty then none else some (.field (String.ofList text))
  | _ :: value => if Value.isReadable (value.takeWhile (· != '=')) then some .span else none

def demand? (text : List Char) (layout : Layout) : Option Demand := do
  match layout.span, layout.field with
  | some _, none => some .span
  | some (first, last), some (fieldFirst, fieldLast) =>
    let name ← Text.cut text first last
    let demand ← fieldDemand? (← Text.cut text fieldFirst fieldLast)
    if name.isEmpty then some demand else some .span
  | none, _ => some .nothing

def levelAt? (text : List Char) (offset : Option Nat) : Option Level :=
  match offset with
  | none => some .trace
  | some first => do
    let level ← Text.dropBytes first text
    if level.isEmpty then some .trace else Terminal.Level.ofText? level

/-- An entry without brackets and equality sign is a level for all targets, or else a target. -/
def bare (text : List Char) : Entry :=
  match Terminal.Level.ofText? text with
  | some level => ⟨"", .nothing, level⟩
  | none => ⟨String.ofList text, .nothing, .trace⟩

/-- Read an entry. It is laid out without the blanks around it, but its parts are cut at the same
offsets from the text with the blanks, so those in front shift every part. -/
def read? (text : List Char) : Option Entry := do
  let layout ← layout? (Text.trim text)
  if layout.span.isNone && layout.level.isNone then some (bare text)
  else
    let target ← Text.cut text 0 layout.target
    let demand ← demand? text layout
    let level ← levelAt? text layout.level
    some ⟨String.ofList target, demand, level⟩

end Entry
end StatementParser.Terminal
