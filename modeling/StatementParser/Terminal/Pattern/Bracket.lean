import StatementParser.Terminal.Pattern.Piece

/-!
Sets of characters in square brackets. A set is a union of pieces, of ranges from one character to
another, of named classes and of further sets, and two unions may be combined by a doubled sign. Of
a set that can be read only the number of its levels is kept.
-/
namespace StatementParser.Terminal.Pattern

/-- The levels of parts side by side: two or more make a level of their own. -/
def levelsOf : List Nat → Nat
  | [] => 0
  | [levels] => levels
  | parts => parts.foldl max 0 + 1

inductive Place where
  | opened
  | negated
  | hyphens
  | inside
  deriving DecidableEq, Repr

/-- A set that is not closed yet: the levels of what stands to the left of the latest sign, and
those of each part behind it. -/
structure Bracket where
  place : Place
  left : Option Nat
  parts : List Nat
  deriving DecidableEq, Repr

namespace Bracket

def start : Bracket :=
  ⟨.opened, none, []⟩

def add (bracket : Bracket) (levels : Nat) : Bracket :=
  { bracket with place := .inside, parts := levels :: bracket.parts }

def levels (bracket : Bracket) : Nat :=
  match bracket.left with
  | none => levelsOf bracket.parts
  | some left => max left (levelsOf bracket.parts) + 1

def combine (bracket : Bracket) : Bracket :=
  ⟨.inside, some bracket.levels, []⟩

end Bracket

def classNames : List String :=
  ["alnum", "alpha", "ascii", "blank", "cntrl", "digit", "graph", "lower", "print", "punct",
   "space", "upper", "word", "xdigit"]

def class? : List Char → Option (Bool × List Char)
  | ':' :: rest =>
    let outside := rest.head? = some '^'
    let text := if outside then rest.tail else rest
    let name := text.takeWhile (· != ':')
    match text.drop name.length with
    | ':' :: ']' :: rest =>
      if classNames.contains (String.ofList name) then some (outside, rest) else none
    | _ => none
  | _ => none

def isClassReadable (mode : Mode) (outside : Bool) : Bool :=
  if mode.ascii then !outside else !mode.anyCase

def range? (mode : Mode) (text : List Char) : Option (List Char) := do
  let (first, rest) ← member? mode text
  let single := if first.isMember mode then some (mode.skip rest) else none
  match mode.skip rest with
  | '-' :: rest =>
    if mode.peek? rest = some ']' ∨ mode.peek? rest = some '-' then single
    else
      let (last, rest) ← member? mode (mode.skip rest)
      match first, last with
      | .character low _, .character high _ =>
        if low ≤ high && first.isMember mode && last.isMember mode then some rest else none
      | _, _ => none
  | _ => single

/-- Read a set behind its opening bracket to the end of it, and yield its levels. The sets around it
are given with the innermost first. Each step takes a character at least, so the text itself bounds
their number. -/
def bracket? (mode : Mode) :
    List Char → Bracket → List Bracket → List Char → Option (Nat × List Char)
  | [], _, _, _ => none
  | _ :: steps, bracket, around, text =>
    match mode.skip text with
    | [] => none
    | c :: rest =>
      if c = '^' ∧ bracket.place = .opened then
        if mode.ascii then none
        else bracket? mode steps { bracket with place := .negated } around rest
      else if c = '-' ∧ bracket.place ≠ .inside then
        if Piece.isMember mode (.character c.toNat false) then
          bracket? mode steps { bracket.add 0 with place := .hyphens } around rest
        else none
      else if c = ']' ∧ (bracket.place = .opened ∨ bracket.place = .negated) then
        if Piece.isMember mode (.character c.toNat false) then
          bracket? mode steps (bracket.add 0) around rest
        else none
      else if c = ']' then
        match around with
        | [] => some (bracket.levels + 1, rest)
        | outer :: around => bracket? mode steps (outer.add (bracket.levels + 1)) around rest
      else if c = '[' then
        match class? rest with
        | some (outside, rest) =>
          if isClassReadable mode outside then bracket? mode steps (bracket.add 0) around rest
          else none
        | none => bracket? mode steps .start (bracket :: around) rest
      else if (c = '&' ∨ c = '-' ∨ c = '~') ∧ rest.head? = some c then
        bracket? mode steps bracket.combine around rest.tail
      else
        match range? mode (c :: rest) with
        | some rest => bracket? mode steps (bracket.add 0) around rest
        | none => none

end StatementParser.Terminal.Pattern
