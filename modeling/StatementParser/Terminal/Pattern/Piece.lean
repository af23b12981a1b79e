import StatementParser.Terminal.Pattern.Mode

/-!
The smallest pieces of a pattern, and in which mode they can be read. Case, classes and words are
known within ASCII only, so they need an ascii mode; a mode that keeps to ASCII must not match a
part of a wider character, so there no piece may reach beyond ASCII but a whole character.
-/
namespace StatementParser.Terminal.Pattern

/-- A character may be given as a byte. A class holds digits, blanks or word characters, or all but
those. A bound stands between words, an edge at an end of a line or of the text. -/
inductive Piece where
  | character (code : Nat) (byte : Bool)
  | any
  | kind (outside : Bool)
  | bound
  | edge
  deriving DecidableEq, Repr

def Piece.isReadable (mode : Mode) : Piece → Bool
  | .character code byte => if mode.ascii then !byte || code < 128 else !mode.anyCase
  | .any => !mode.ascii
  | .kind outside => mode.ascii && !outside
  | .bound => mode.ascii
  | .edge => true

def Piece.isMember (mode : Mode) : Piece → Bool
  | .character code _ => if mode.ascii then code < 128 else !mode.anyCase
  | .kind outside => mode.ascii && !outside
  | _ => false

def isHex (c : Char) : Bool :=
  c.isDigit || ('a' ≤ c && c ≤ 'f') || ('A' ≤ c && c ≤ 'F')

def hexDigit (c : Char) : Nat :=
  if c.isDigit then c.toNat - '0'.toNat else c.toLower.toNat - 'a'.toNat + 10

def hexadecimal? (mode : Mode) : Nat → Nat → List Char → Option (Nat × List Char)
  | 0, value, text => some (value, text)
  | count + 1, value, text =>
    match mode.skip text with
    | [] => none
    | c :: rest =>
      if isHex c then hexadecimal? mode count (16 * value + hexDigit c) rest else none

def coded? (mode : Mode) (count : Nat) (text : List Char) : Option (Piece × List Char) := do
  let (code, rest) ← hexadecimal? mode count 0 text
  if code.isValidChar then some (.character code (count = 2), rest) else none

def isSign (c : Char) : Bool :=
  c.toNat < 128 && !c.isAlphanum && c != '<' && c != '>'

def escape? (mode : Mode) : List Char → Option (Piece × List Char)
  | [] => none
  | c :: rest =>
    match c with
    | 'a' => some (.character 7 false, rest)
    | 't' => some (.character 9 false, rest)
    | 'n' => some (.character 10 false, rest)
    | 'v' => some (.character 11 false, rest)
    | 'f' => some (.character 12 false, rest)
    | 'r' => some (.character 13 false, rest)
    | 'A' => some (.edge, rest)
    | 'z' => some (.edge, rest)
    | 'b' => some (.bound, rest)
    | 'B' => some (.bound, rest)
    | '<' => some (.bound, rest)
    | '>' => some (.bound, rest)
    | 'd' => some (.kind false, rest)
    | 's' => some (.kind false, rest)
    | 'w' => some (.kind false, rest)
    | 'D' => some (.kind true, rest)
    | 'S' => some (.kind true, rest)
    | 'W' => some (.kind true, rest)
    | 'x' => coded? mode 2 rest
    | 'u' => coded? mode 4 rest
    | 'U' => coded? mode 8 rest
    | c => if isSign c then some (.character c.toNat false, rest) else none

def member? (mode : Mode) : List Char → Option (Piece × List Char)
  | [] => none
  | '\\' :: rest => escape? mode rest
  | c :: rest => some (.character c.toNat false, rest)

def piece? (mode : Mode) : List Char → Option (Piece × List Char)
  | '.' :: rest => some (.any, rest)
  | '^' :: rest => some (.edge, rest)
  | '$' :: rest => some (.edge, rest)
  | text => member? mode text

end StatementParser.Terminal.Pattern
