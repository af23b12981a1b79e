import StatementParser.Text.Blank

/-!
The mode in which a part of a pattern is read. It is changed by flags, for a group or for what is
left of the enclosing group. Other flags bear on matching alone.
-/
namespace StatementParser.Terminal.Pattern

/-- In a spaced mode blanks and comments are skipped, in an ascii mode letters, digits, blanks and
words are those of ASCII. -/
structure Mode where
  spaced : Bool
  anyCase : Bool
  ascii : Bool
  deriving DecidableEq, Repr

def dropSpace : Bool → List Char → List Char
  | _, [] => []
  | true, c :: rest => dropSpace (c != '\n') rest
  | false, c :: rest =>
    if Text.isBlank c then dropSpace false rest
    else if c = '#' then dropSpace true rest
    else c :: rest

namespace Mode

def plain : Mode :=
  ⟨false, false, false⟩

def skip (mode : Mode) (text : List Char) : List Char :=
  if mode.spaced then dropSpace false text else text

/-- The next character that counts. Of a comment only the sign is passed over, so the comment's own
characters count here. -/
def peek? (mode : Mode) (text : List Char) : Option Char :=
  if mode.spaced then
    match text.dropWhile Text.isBlank with
    | '#' :: rest => (rest.dropWhile Text.isBlank).head?
    | rest => rest.head?
  else text.head?

def set (mode : Mode) (on : Bool) (flag : Char) : Mode :=
  match flag with
  | 'x' => { mode with spaced := on }
  | 'i' => { mode with anyCase := on }
  | 'u' => { mode with ascii := !on }
  | _ => mode

def setAll (mode : Mode) : Bool → List Char → Mode
  | _, [] => mode
  | on, flag :: flags =>
    if flag = '-' then setAll mode false flags else setAll (mode.set on flag) on flags

end Mode

/-- Flags are given once each, and a hyphen stands before those that are taken back. -/
def isFlags (flags : List Char) : Bool :=
  flags.all (['i', 'm', 's', 'U', 'u', 'x', 'R', '-'].contains ·) &&
    flags.Nodup && flags.getLast? != some '-'

end StatementParser.Terminal.Pattern
