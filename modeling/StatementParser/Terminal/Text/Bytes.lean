/-!
Offsets into a text may count bytes, those that its characters take in UTF-8. A cut at an offset has
no result when the offset lies past the end or inside a character.
-/
namespace StatementParser.Text

def bytes : List Char → Nat
  | [] => 0
  | c :: rest => c.utf8Size + bytes rest

def takeBytes : Nat → List Char → Option (List Char)
  | 0, _ => some []
  | _ + 1, [] => none
  | size + 1, c :: rest =>
    if c.utf8Size ≤ size + 1 then (takeBytes (size + 1 - c.utf8Size) rest).map (c :: ·) else none

def dropBytes : Nat → List Char → Option (List Char)
  | 0, text => some text
  | _ + 1, [] => none
  | size + 1, c :: rest =>
    if c.utf8Size ≤ size + 1 then dropBytes (size + 1 - c.utf8Size) rest else none

def cut (text : List Char) (first last : Nat) : Option (List Char) := do
  takeBytes (last - first) (← dropBytes first text)

end StatementParser.Text
