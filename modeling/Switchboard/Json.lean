import Switchboard.Text.Quoted

/-!
# JSON values

The values that messages and responses are shown as, and their compact text: no
spaces, and in strings only quotes, backslashes and control characters escaped.
-/

namespace Switchboard

/-- A JSON value whose numbers are integers. -/
inductive Json where
  | null
  | bool (value : Bool)
  | number (value : Int)
  | string (text : String)
  | array (items : List Json)
  | object (members : List (String × Json))
deriving Repr, Inhabited, BEq

namespace Json

/-- One character of a string. -/
def escapeChar (char : Char) : String :=
  if char = '"' then "\\\""
  else if char = '\\' then "\\\\"
  else if char = '\n' then "\\n"
  else if char = '\r' then "\\r"
  else if char = '\t' then "\\t"
  else if char.toNat = 0x8 then "\\b"
  else if char.toNat = 0xC then "\\f"
  else if char.toNat < 0x20 then
    "\\u00" ++ String.ofList [Text.hexDigit (char.toNat / 16), Text.hexDigit (char.toNat % 16)]
  else char.toString

/-- A string with its quotes. -/
def escape (text : String) : String :=
  "\"" ++ String.join (text.toList.map escapeChar) ++ "\""

mutual

/-- The compact text of a value. -/
def compact : Json → String
  | null => "null"
  | bool value => if value then "true" else "false"
  | number value => toString value
  | string text => escape text
  | array items => "[" ++ ",".intercalate (compactAll items) ++ "]"
  | object members => "\x7b" ++ ",".intercalate (compactMembers members) ++ "\x7d"

/-- The compact texts of a list of values. -/
def compactAll : List Json → List String
  | [] => []
  | first :: rest => first.compact :: compactAll rest

/-- The compact texts of the members of an object. -/
def compactMembers : List (String × Json) → List String
  | [] => []
  | (name, value) :: rest => (escape name ++ ":" ++ value.compact) :: compactMembers rest

end

end Json

end Switchboard
