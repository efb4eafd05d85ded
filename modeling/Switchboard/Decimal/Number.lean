import Switchboard.Decimal.Shortest

/-!
# Numbers in documents

How the text of a number is read. A whole number that fits 64 bits stays exact;
every other number becomes a binary floating-point number: its digits are taken as
long as they fit 64 bits, rounded once, and scaled by powers of ten, each rounded
once. `Number.text` writes such a number with the fewest digits that round to it.
-/

namespace Switchboard.Decimal

/-- The parts of a number's text. -/
structure Literal where
  isNegative : Bool
  /-- The digits before the point. -/
  whole : List Nat
  /-- The digits after the point, if there is one. -/
  fraction : Option (List Nat)
  /-- The sign and the digits of the exponent, if there is one. -/
  exponent : Option (Bool × List Nat)
deriving Repr, Inhabited

namespace Literal

/-- The value of a digit. -/
def digitOf (char : Char) : Nat := char.toNat - 48

/-- The digits at the front of a text, and the rest. -/
def takeDigits (text : List Char) : List Nat × List Char :=
  ((text.takeWhile Char.isDigit).map digitOf, text.dropWhile Char.isDigit)

/-- The exponent at the front of a text, if there is one. -/
def takeExponent : List Char → Option (Option (Bool × List Nat) × List Char)
  | mark :: rest =>
      if mark = 'e' || mark = 'E' then
        let (isNegative, rest) : Bool × List Char :=
          match rest with
          | '-' :: rest => (true, rest)
          | '+' :: rest => (false, rest)
          | rest => (false, rest)
        match takeDigits rest with
        | ([], _) => none
        | (digits, rest) => some (some (isNegative, digits), rest)
      else some (none, mark :: rest)
  | [] => some (none, [])

/-- The fraction at the front of a text, if there is one. -/
def takeFraction : List Char → Option (Option (List Nat) × List Char)
  | '.' :: rest =>
      match takeDigits rest with
      | ([], _) => none
      | (digits, rest) => some (some digits, rest)
  | rest => some (none, rest)

/-- The number at the front of a text, and the rest. -/
def ofChars (text : List Char) : Option (Literal × List Char) :=
  let (isNegative, rest) : Bool × List Char :=
    match text with
    | '-' :: rest => (true, rest)
    | rest => (false, rest)
  match takeDigits rest with
  | ([], _) => none
  | (0 :: _ :: _, _) => none
  | (whole, rest) => do
      let (fraction, rest) ← takeFraction rest
      let (exponent, rest) ← takeExponent rest
      return (⟨isNegative, whole, fraction, exponent⟩, rest)

end Literal

/-- A number as a document gives it. -/
inductive Number where
  | integer (value : Int)
  | float (value : Float)
deriving Inhabited

namespace Number

/-- The greatest unsigned number of 64 bits. -/
def greatest : Nat := UInt64.size - 1

/-- The greatest magnitude of a negative whole number of 64 bits. -/
def greatestNegated : Nat := Int64.minValue.toInt.natAbs

/-- Whether one more digit still fits 64 bits. -/
def fits (significand digit : Nat) : Bool := significand * 10 + digit ≤ greatest

/-- Take the digits before the point: those that fit, and how many are left out. -/
def takeWhole : Nat → List Nat → Nat × Nat
  | significand, [] => (significand, 0)
  | significand, digit :: rest =>
      if fits significand digit then takeWhole (significand * 10 + digit) rest
      else (significand, rest.length + 1)

/-- Take the digits after the point, as long as they fit; each lowers the exponent by one. -/
def takeFraction : Nat → Int → List Nat → Nat × Int
  | significand, exponent, [] => (significand, exponent)
  | significand, exponent, digit :: rest =>
      if fits significand digit then takeFraction (significand * 10 + digit) (exponent - 1) rest
      else (significand, exponent)

/-- The greatest exponent that is read; beyond it a number counts as infinite or as zero. -/
def greatestExponent : Int := Int32.maxValue.toInt

/-- A power of ten, correctly rounded. -/
def powerOfTen (exponent : Nat) : Float := Float.ofScientific 1 false exponent

/-- Scale down: as often as needed by `10 ^ 308`, and then by what is left. Three times leave
nothing of any significand. -/
def scaleDown : Nat → Float → Nat → Float
  | 0, value, _ => value
  | tries + 1, value, exponent =>
      if exponent ≤ 308 then value / powerOfTen exponent
      else if value == 0.0 then value
      else scaleDown tries (value / powerOfTen 308) (exponent - 308)

/-- A significand times a power of ten, unless it is too great. -/
def scale (significand : Nat) (exponent : Int) : Option Float :=
  let value := significand.toUInt64.toFloat
  if exponent < 0 then some (scaleDown 4 value exponent.natAbs)
  else if exponent ≤ 308 then
    let product := value * powerOfTen exponent.natAbs
    if product.isInf then none else some product
  else if value == 0.0 then some value
  else none

/-- The magnitude of a number that is not a plain whole number of 64 bits. -/
def magnitude (significand : Nat) (exponent : Int) : Option (Bool × List Nat) → Option Float
  | none => scale significand exponent
  | some (isNegative, digits) =>
      let given : Int := (digits.foldl (fun sum digit => sum * 10 + digit) 0 : Nat)
      if greatestExponent < given then
        if significand ≠ 0 && !isNegative then none else some 0.0
      else
        let total := if isNegative then exponent - given else exponent + given
        scale significand (max (-greatestExponent - 1) (min greatestExponent total))

/-- The value of a number's text; `none` if it is too great. -/
def ofLiteral (literal : Literal) : Option Number :=
  let (significand, dropped) := takeWhole 0 literal.whole
  let signed (value : Float) : Number := .float (if literal.isNegative then -value else value)
  match literal.fraction, literal.exponent, dropped with
  | none, none, 0 =>
      if !literal.isNegative then some (.integer significand)
      else if significand = 0 || greatestNegated < significand then
        some (signed significand.toUInt64.toFloat)
      else some (.integer (-(significand : Int)))
  | fraction, exponent, dropped =>
      let (significand, start) := takeFraction significand dropped (fraction.getD [])
      (magnitude significand start exponent).map signed

/-- An exponent of ten, always with its sign. -/
def exponentText (exponent : Int) : String :=
  (if exponent < 0 then "e-" else "e+") ++ toString exponent.natAbs

/-- Digits with a point among them or zeros around them: positional between `10 ^ -5` and
`10 ^ 16`, otherwise with an exponent. -/
def layout (decimal : Scaled) : String :=
  let digits := toString decimal.digits
  let count : Int := digits.length
  let point := count + decimal.exponent
  let zeros (amount : Int) : String := String.ofList (List.replicate amount.toNat '0')
  if 0 ≤ decimal.exponent && point ≤ 16 then digits ++ zeros decimal.exponent ++ ".0"
  else if 0 < point && point ≤ 16 then
    (digits.take point.toNat).toString ++ "." ++ (digits.drop point.toNat).toString
  else if -5 < point && point ≤ 0 then "0." ++ zeros (-point) ++ digits
  else if count = 1 then digits ++ exponentText (point - 1)
  else (digits.take 1).toString ++ "." ++ (digits.drop 1).toString ++ exponentText (point - 1)

/-- A finite floating-point number with the fewest digits that round to it. -/
def floatText (value : Float) : String :=
  let bits := value.toBits
  let sign := if bits >>> 63 = 1 then "-" else ""
  let magnitude := bits &&& 0x7FFFFFFFFFFFFFFF
  if magnitude = 0 then sign ++ "0.0"
  else sign ++ layout ((Binary64.ofBits magnitude).shortest.trimmed)

end Number

end Switchboard.Decimal
