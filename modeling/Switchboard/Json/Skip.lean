/-!
# Skipping a JSON value

A machine that reads one character at a time and finds where a value of any kind
ends, without keeping it. It accepts exactly the syntax of JSON, at any depth of
nesting; an escape of the form `\u` may have any four digits, even half of a pair.
-/

namespace Switchboard.Json

/-- A container that has been opened and not yet closed. -/
inductive Container where
  | array
  | object
deriving DecidableEq, Repr, Inhabited

/-- What the machine expects next. -/
inductive Expectation where
  /-- A value. -/
  | value
  /-- The first element of an array, or its end. -/
  | firstElement
  /-- The first member name of an object, or its end. -/
  | firstMember
  /-- Another member name. -/
  | memberName
  /-- The colon after a member name. -/
  | colon
  /-- A comma or the end of the container, after a value in it. -/
  | separator
  /-- These characters of a word. -/
  | word (left : List Char)
  /-- More of a string. -/
  | text (isName : Bool)
  /-- The character after a backslash. -/
  | escaped (isName : Bool)
  /-- So many more digits after `\u`. -/
  | code (isName : Bool) (left : Nat)
  /-- The first digit after a minus sign. -/
  | afterMinus
  /-- What may follow a leading zero. -/
  | afterZero
  /-- More digits of a whole number, or what may follow them. -/
  | whole
  /-- The first digit after a decimal point. -/
  | afterPoint
  /-- More digits of a fraction, or what may follow them. -/
  | fraction
  /-- The sign or first digit of an exponent. -/
  | afterMark
  /-- The first digit of an exponent after its sign. -/
  | afterSign
  /-- More digits of an exponent. -/
  | exponent
deriving DecidableEq, Repr, Inhabited

/-- What one character does. -/
inductive Move where
  | go (next : Expectation) (opened : List Container)
  /-- The value ends with this character. -/
  | endsHere
  /-- The value has ended before this character. -/
  | endedBefore
  | refuse
deriving DecidableEq, Repr, Inhabited

/-- The four characters that may stand between the parts of a document. -/
def isSpace (char : Char) : Bool :=
  char = ' ' || char = '\t' || char = '\n' || char = '\r'

/-- A digit of base sixteen, in either case. -/
def isHexDigit (char : Char) : Bool :=
  char.isDigit || ('a' ≤ char && char ≤ 'f') || ('A' ≤ char && char ≤ 'F')

/-- The characters that may follow a backslash, besides `u`. -/
def isSimpleEscape (char : Char) : Bool :=
  ['"', '\\', '/', 'b', 'f', 'n', 'r', 't'].contains char

namespace Expectation

/-- After a value that its last character has ended. -/
def afterValue : List Container → Move
  | [] => .endsHere
  | opened => .go .separator opened

/-- The first character of a value. -/
def startValue (opened : List Container) (char : Char) : Move :=
  if char = '"' then .go (.text false) opened
  else if char = '[' then .go .firstElement (.array :: opened)
  else if char = '\x7b' then .go .firstMember (.object :: opened)
  else if char = '-' then .go .afterMinus opened
  else if char = '0' then .go .afterZero opened
  else if char.isDigit then .go .whole opened
  else if char = 'n' then .go (.word ['u', 'l', 'l']) opened
  else if char = 't' then .go (.word ['r', 'u', 'e']) opened
  else if char = 'f' then .go (.word ['a', 'l', 's', 'e']) opened
  else .refuse

/-- A character after a value inside a container. -/
def separate (opened : List Container) (char : Char) : Move :=
  if isSpace char then .go .separator opened
  else
    match opened with
    | [] => .refuse
    | .array :: outer =>
        if char = ',' then .go .value opened
        else if char = ']' then afterValue outer
        else .refuse
    | .object :: outer =>
        if char = ',' then .go .memberName opened
        else if char = '\x7d' then afterValue outer
        else .refuse

/-- A character that does not belong to the number before it. -/
def afterNumber : List Container → Char → Move
  | [], _ => .endedBefore
  | opened, char => separate opened char

/-- What a character does, given what is expected and which containers are open. -/
def move (expected : Expectation) (opened : List Container) (char : Char) : Move :=
  match expected with
  | value => if isSpace char then .go .value opened else startValue opened char
  | firstElement =>
      if isSpace char then .go .firstElement opened
      else if char = ']' then afterValue opened.tail
      else startValue opened char
  | firstMember =>
      if isSpace char then .go .firstMember opened
      else if char = '\x7d' then afterValue opened.tail
      else if char = '"' then .go (.text true) opened
      else .refuse
  | memberName =>
      if isSpace char then .go .memberName opened
      else if char = '"' then .go (.text true) opened
      else .refuse
  | colon =>
      if isSpace char then .go .colon opened
      else if char = ':' then .go .value opened
      else .refuse
  | separator => separate opened char
  | word [] => .refuse
  | word [last] => if char = last then afterValue opened else .refuse
  | word (first :: left) => if char = first then .go (.word left) opened else .refuse
  | text isName =>
      if char = '"' then (if isName then .go .colon opened else afterValue opened)
      else if char = '\\' then .go (.escaped isName) opened
      else if char.toNat < 0x20 then .refuse
      else .go (.text isName) opened
  | escaped isName =>
      if isSimpleEscape char then .go (.text isName) opened
      else if char = 'u' then .go (.code isName 4) opened
      else .refuse
  | code isName left =>
      if !isHexDigit char then .refuse
      else if left ≤ 1 then .go (.text isName) opened
      else .go (.code isName (left - 1)) opened
  | afterMinus =>
      if char = '0' then .go .afterZero opened
      else if char.isDigit then .go .whole opened
      else .refuse
  | afterZero =>
      if char = '.' then .go .afterPoint opened
      else if char = 'e' || char = 'E' then .go .afterMark opened
      else if char.isDigit then .refuse
      else afterNumber opened char
  | whole =>
      if char.isDigit then .go .whole opened
      else if char = '.' then .go .afterPoint opened
      else if char = 'e' || char = 'E' then .go .afterMark opened
      else afterNumber opened char
  | afterPoint => if char.isDigit then .go .fraction opened else .refuse
  | fraction =>
      if char.isDigit then .go .fraction opened
      else if char = 'e' || char = 'E' then .go .afterMark opened
      else afterNumber opened char
  | afterMark =>
      if char = '+' || char = '-' then .go .afterSign opened
      else if char.isDigit then .go .exponent opened
      else .refuse
  | afterSign => if char.isDigit then .go .exponent opened else .refuse
  | exponent => if char.isDigit then .go .exponent opened else afterNumber opened char

/-- Whether the text may end here: only a number outside any container may. -/
def mayEnd : Expectation → List Container → Bool
  | afterZero, [] => true
  | whole, [] => true
  | fraction, [] => true
  | exponent, [] => true
  | _, _ => false

/-- Run the machine; the result is what follows the value. -/
def skip : Expectation → List Container → List Char → Option (List Char)
  | expected, opened, [] => if expected.mayEnd opened then some [] else none
  | expected, opened, char :: rest =>
      match expected.move opened char with
      | .go next opened => skip next opened rest
      | .endsHere => some rest
      | .endedBefore => some (char :: rest)
      | .refuse => none

end Expectation

/-- What follows the value at the front of a text, blanks before it included. -/
def skipValue (text : List Char) : Option (List Char) := Expectation.skip .value [] text

end Switchboard.Json
