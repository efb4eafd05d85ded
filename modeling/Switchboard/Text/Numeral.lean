/-!
# Numerals

Which texts are numbers: digits with perhaps a point among them or at either end, perhaps
with a sign before and an exponent behind, and the names of what is infinite or no number.
-/

namespace Switchboard.Text

/-- The text without a sign in front. -/
def unsigned : List Char → List Char
  | '+' :: text => text
  | '-' :: text => text
  | text => text

/-- Whether a text is nothing, or an exponent. -/
def isExponentOrEnd : List Char → Bool
  | [] => true
  | sign :: text =>
      (sign = 'e' || sign = 'E') && !(unsigned text).isEmpty && (unsigned text).all Char.isDigit

/-- Whether a text without a sign is digits with a point and an exponent. -/
def isDecimal (text : List Char) : Bool :=
  let whole := text.takeWhile Char.isDigit
  match text.dropWhile Char.isDigit with
  | '.' :: rest =>
      !(whole.isEmpty && (rest.takeWhile Char.isDigit).isEmpty) &&
        isExponentOrEnd (rest.dropWhile Char.isDigit)
  | rest => !whole.isEmpty && isExponentOrEnd rest

/-- Whether a text is a number. -/
def isNumeral (text : List Char) : Bool :=
  isDecimal (unsigned text) ||
    ["inf", "infinity", "nan"].contains (String.ofList ((unsigned text).map Char.toLower))

end Switchboard.Text
