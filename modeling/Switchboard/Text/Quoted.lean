import Switchboard.Text.Extending
import Switchboard.Text.Unprintable

/-!
# Quoted texts

How a text is shown in quotes in debugging texts and in some error messages: quotes
and backslashes are escaped, and so is whatever would not print.
-/

namespace Switchboard.Text

/-- A digit of base sixteen, in lower case. -/
def hexDigit (value : Nat) : Char :=
  if value < 10 then Char.ofNat (48 + value) else Char.ofNat (87 + value)

/-- A number in base sixteen, without leading zeros. -/
def hex (value : Nat) : String := String.ofList (Nat.toDigits 16 value)

/-- One character of a quoted text. -/
def quoteChar (char : Char) : String :=
  if char = '"' then "\\\""
  else if char = '\\' then "\\\\"
  else if char = '\n' then "\\n"
  else if char = '\r' then "\\r"
  else if char = '\t' then "\\t"
  else if char.toNat = 0 then "\\0"
  else if isUnprintable char || isExtending char then "\\u\x7b" ++ hex char.toNat ++ "\x7d"
  else char.toString

/-- A text in quotes. -/
def quoted (text : String) : String :=
  "\"" ++ String.join (text.toList.map quoteChar) ++ "\""

/-- Texts in quotes, listed in brackets. -/
def quotedList (texts : List String) : String :=
  "[" ++ ", ".intercalate (texts.map quoted) ++ "]"

end Switchboard.Text
