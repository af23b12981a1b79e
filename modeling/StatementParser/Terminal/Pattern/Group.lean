import StatementParser.Terminal.Pattern.Bracket
import StatementParser.Terminal.Text.Alphanumeric

/-!
Patterns as a whole: groups in parentheses hold alternatives, which are sequences of pieces, sets
and groups, each with signs for repetition. A pattern is never matched, so of what can be read only
the number of its levels is kept; a pattern of too many levels is refused.
-/
namespace StatementParser.Terminal.Pattern

inductive Item where
  | directive
  | part (levels : Nat)
  deriving DecidableEq, Repr

def Item.levels : Item → Nat
  | .directive => 0
  | .part levels => levels

/-- A group that is not closed yet: its mode, the levels of its finished alternatives, and the items
of the one that is being read, latest first. -/
structure Group where
  mode : Mode
  alternatives : List Nat
  items : List Item
  deriving DecidableEq, Repr

namespace Group

def start (mode : Mode) : Group :=
  ⟨mode, [], []⟩

def add (group : Group) (levels : Nat) : Group :=
  { group with items := .part levels :: group.items }

def direct (group : Group) (mode : Mode) : Group :=
  { group with mode, items := .directive :: group.items }

def finished (group : Group) : List Nat :=
  levelsOf (group.items.map Item.levels) :: group.alternatives

def levels (group : Group) : Nat :=
  levelsOf group.finished

def alternate (group : Group) : Group :=
  { group with alternatives := group.finished, items := [] }

def again? (group : Group) : Option Group :=
  match group.items with
  | .part levels :: items => some { group with items := .part (levels + 1) :: items }
  | _ => none

end Group

/-- How far a pattern has been read: the innermost open group, those around it, and the names that
are taken. -/
structure Progress where
  group : Group
  around : List Group
  names : List (List Char)
  deriving DecidableEq, Repr

namespace Progress

def start : Progress :=
  ⟨Group.start .plain, [], []⟩

def enter (progress : Progress) (mode : Mode) : Progress :=
  { progress with group := Group.start mode, around := progress.group :: progress.around }

def leave? (progress : Progress) : Option Progress :=
  match progress.around with
  | [] => none
  | outer :: around =>
    some { progress with group := outer.add (progress.group.levels + 1), around }

end Progress

def isName : List Char → Bool
  | [] => false
  | first :: rest =>
    (first = '_' || Text.isAlphabetic first) &&
      rest.all fun c => Text.isAlphanumeric c || ['_', '.', '[', ']'].contains c

/-- Read what follows an opening parenthesis: a group, which may have a name or flags, or flags
alone. -/
def opening? (progress : Progress) (text : List Char) : Option (Progress × List Char) :=
  let mode := progress.group.mode
  match text with
  | '?' :: rest =>
    let named := if rest.head? = some 'P' then rest.tail else rest
    if named.head? = some '<' then
      let name := named.tail.takeWhile (· != '>')
      match named.tail.drop name.length with
      | [] => none
      | _ :: rest =>
        if isName name && !progress.names.contains name then
          some ({ progress.enter mode with names := name :: progress.names }, rest)
        else none
    else
      let flags := rest.takeWhile fun c => c != ':' && c != ')'
      if isFlags flags then
        match rest.drop flags.length with
        | ':' :: rest => some (progress.enter (mode.setAll true flags), rest)
        | ')' :: rest =>
          if flags.isEmpty then none
          else
            let group := progress.group.direct (mode.setAll true flags)
            some ({ progress with group }, rest)
        | _ => none
      else none
  | _ => some (progress.enter mode, text)

def step? (progress : Progress) (c : Char) (rest : List Char) : Option (Progress × List Char) :=
  let group := progress.group
  match c with
  | '(' => opening? progress (group.mode.skip rest)
  | ')' => progress.leave?.map fun progress => (progress, rest)
  | '|' => some ({ progress with group := group.alternate }, rest)
  | '[' => do
    let (levels, rest) ← bracket? group.mode rest .start [] rest
    some ({ progress with group := group.add levels }, rest)
  | '\x7b' => none
  | _ =>
    if c = '*' ∨ c = '+' ∨ c = '?' then do
      let group ← group.again?
      some ({ progress with group }, if rest.head? = some '?' then rest.tail else rest)
    else do
      let (piece, rest) ← piece? group.mode (c :: rest)
      if piece.isReadable group.mode then
        some ({ progress with group := group.add 0 }, rest)
      else none

def levels? (steps : List Char) (progress : Progress) (text : List Char) : Option Nat :=
  match steps, progress.group.mode.skip text with
  | _, [] => if progress.around.isEmpty then some progress.group.levels else none
  | [], _ => none
  | _ :: steps, c :: rest => do
    let (progress, rest) ← step? progress c rest
    levels? steps progress rest

def limit : Nat := 250

def isPattern (text : List Char) : Bool :=
  match levels? text .start text with
  | some levels => levels ≤ limit
  | none => false

end StatementParser.Terminal.Pattern
