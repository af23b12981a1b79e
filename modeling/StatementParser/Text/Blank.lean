import StatementParser.Text.Runs

/-!
Blank characters are those with the Unicode property White_Space. Trimming, the first word of a
line and its remainder are all cut at these characters, and lines at the line feed alone.
-/
namespace StatementParser.Text

def blankRuns : Runs :=
  [(0x0009, 0x000D), (0x0020, 0x0020), (0x0085, 0x0085), (0x00A0, 0x00A0), (0x1680, 0x1680),
   (0x2000, 0x200A), (0x2028, 0x2029), (0x202F, 0x202F), (0x205F, 0x205F), (0x3000, 0x3000)]

def isBlank (c : Char) : Bool :=
  blankRuns.holds c

def trimLeft (text : List Char) : List Char :=
  text.dropWhile isBlank

def trimRight (text : List Char) : List Char :=
  (trimLeft text.reverse).reverse

def trim (text : List Char) : List Char :=
  trimRight (trimLeft text)

def firstWord (text : List Char) : List Char :=
  text.takeWhile fun c => !isBlank c

def remainder (text : List Char) : List Char :=
  trim (text.dropWhile fun c => !isBlank c)

def consLine (c : Char) : List (List Char) → List (List Char)
  | [] => [[c]]
  | line :: rest => if c = '\n' then [] :: line :: rest else (c :: line) :: rest

/-- The pieces between line feeds; their number is one more than that of the line feeds. -/
def lines (text : List Char) : List (List Char) :=
  text.foldr consLine [[]]

theorem consLine_ne_nil (c : Char) (rest : List (List Char)) : consLine c rest ≠ [] := by
  cases rest with
  | nil => simp [consLine]
  | cons line rest => simp only [consLine]; split <;> simp

theorem lines_ne_nil (text : List Char) : lines text ≠ [] := by
  cases text with
  | nil => simp [lines]
  | cons c text => exact consLine_ne_nil c (lines text)

end StatementParser.Text
