import StatementParser.Terminal.Pattern.Group

/-!
Values of fields, as an entry of a filter may ask for them. A value is a number or a pattern; it is
told only inside spans, and the program opens none, so what counts is whether it can be read.
-/
namespace StatementParser.Terminal.Value

def isNumber (text : List Char) : Bool :=
  let point := text.dropWhile Char.isDigit
  let fraction := if point.head? = some '.' then point.tail else []
  let mantissa := text.takeWhile Char.isDigit ++ fraction.takeWhile Char.isDigit
  let exponent := if point.head? = some '.' then fraction.dropWhile Char.isDigit else point
  let power := exponent.tail
  let digits := if power.head? = some '+' ∨ power.head? = some '-' then power.tail else power
  let word := text.map Char.toLower
  (!mantissa.isEmpty &&
    (exponent.isEmpty ||
      (exponent.head? = some 'e' || exponent.head? = some 'E') &&
        !digits.isEmpty && digits.all Char.isDigit)) ||
    word = "inf".toList || word = "infinity".toList || word = "nan".toList

/-- A number may have a plus sign in front; without one it can also be read as a pattern. -/
def isReadable (text : List Char) : Bool :=
  (text.head? = some '+' && isNumber text.tail) || Pattern.isPattern text

end StatementParser.Terminal.Value
