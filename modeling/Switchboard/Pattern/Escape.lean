import Switchboard.Pattern
import Switchboard.Pattern.Flags

/-!
# Escapes in patterns

What a backslash and the signs behind it stand for: a character, a class of characters,
or a condition on a place. Without wide characters, whatever would go beyond ASCII is
refused.
-/

namespace Switchboard.Pattern

/-- What an escape stands for. -/
inductive Escape where
  | char (char : Char)
  | set (set : CharSet)
  | anchor (condition : Anchor)
deriving DecidableEq, Repr, Inhabited

namespace Escape

/-- The value of a digit of base sixteen. -/
def hexDigit? (digit : Char) : Option Nat :=
  if '0' ≤ digit && digit ≤ '9' then some (digit.toNat - 48)
  else if 'a' ≤ digit && digit ≤ 'f' then some (digit.toNat - 87)
  else if 'A' ≤ digit && digit ≤ 'F' then some (digit.toNat - 55)
  else none

/-- Read so many digits of base sixteen. -/
def readHex (flags : Flags) : Nat → Nat → List Char → Option (Nat × List Char)
  | 0, value, text => some (value, text)
  | _ + 1, _, [] => none
  | count + 1, value, digit :: text =>
      match hexDigit? digit with
      | some digit => readHex flags count (value * 16 + digit) (flags.skip text)
      | none => none

/-- The character with a code. -/
def charOfCode? (code : Nat) : Option Char :=
  if code < 0xD800 || (0xDFFF < code && code < 0x110000) then some (Char.ofNat code) else none

/-- Read a code of so many digits. -/
def readCode (flags : Flags) (count : Nat) (text : List Char) :
    Option (Escape × List Char) := do
  let (code, text) ← readHex flags count 0 (flags.skip text)
  if !flags.isWide && count == 2 && 0x7F < code then none
  else return (.char (← charOfCode? code), text)

/-- A set or what is not in it; the latter goes beyond ASCII. -/
def setOrRest (flags : Flags) (members : CharSet) (isNegated : Bool) : Option CharSet :=
  if !isNegated then some members else if flags.isWide then some members.complement else none

/-- Read the letter of a category. -/
def readCategory (flags : Flags) (isNegated : Bool) (text : List Char) :
    Option (Escape × List Char) :=
  match flags.skip text with
  | [] => none
  | name :: text =>
      if !flags.isWide then none
      else do
        let members ← setOrRest flags (← CharSet.category? name) isNegated
        return (.set members, flags.skip text)

/-- The character that a letter behind a backslash stands for. -/
def control? : Char → Option Char
  | 'a' => some (Char.ofNat 0x7)
  | 'f' => some (Char.ofNat 0xC)
  | 't' => some '\t'
  | 'n' => some '\n'
  | 'r' => some '\r'
  | 'v' => some (Char.ofNat 0xB)
  | _ => none

/-- The condition that a sign behind a backslash stands for. -/
def anchor? (flags : Flags) : Char → Option Anchor
  | 'A' => some .textStart
  | 'z' => some .textEnd
  | 'b' => some (.word .either flags.isWide)
  | 'B' => some (.word .neither flags.isWide)
  | '<' => some (.word .start flags.isWide)
  | '>' => some (.word .stop flags.isWide)
  | _ => none

/-- Whether a character stands for itself behind a backslash. -/
def isPlain (sign : Char) : Bool :=
  sign.toNat < 0x80 && !sign.isAlphanum && sign != '<' && sign != '>'

/-- Read what stands behind a backslash. -/
def read (flags : Flags) : List Char → Option (Escape × List Char)
  | [] => none
  | sign :: text =>
      if sign = 'x' then readCode flags 2 text
      else if sign = 'u' then readCode flags 4 text
      else if sign = 'U' then readCode flags 8 text
      else if sign = 'p' || sign = 'P' then readCategory flags (sign = 'P') text
      else if isPlain sign then some (.char sign, text)
      else
        match CharSet.classLetter? sign.toLower, control? sign, anchor? flags sign with
        | some members, _, _ =>
            (setOrRest flags members sign.isUpper).map fun members => (.set members, text)
        | none, some meant, _ => some (.char meant, text)
        | none, none, some condition => some (.anchor condition, text)
        | none, none, none => none

end Escape

end Switchboard.Pattern
