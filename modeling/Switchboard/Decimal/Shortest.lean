/-!
# Shortest decimals

The decimal with the fewest digits that a 64-bit binary floating-point number is the
nearest such number to, and of those the one nearest to it. All arithmetic is exact:
the number is `significand * 2 ^ exponent`, and so are the ends of the interval of
reals that round to it, which belong to the interval when the significand is even.
-/

namespace Switchboard.Decimal

/-- A finite positive number `significand * 2 ^ exponent` of 64-bit binary floating point. -/
structure Binary64 where
  significand : Nat
  exponent : Int
deriving DecidableEq, Repr, Inhabited

namespace Binary64

/-- The bit in front of a fraction of 52 bits. -/
def leadingBit : Nat := 0x10000000000000

/-- The magnitude that the lower 63 bits of a finite number stand for. -/
def ofBits (bits : UInt64) : Binary64 :=
  let fraction : Nat := (bits &&& 0xFFFFFFFFFFFFF).toNat
  let scale : Nat := (bits >>> 52 &&& 0x7FF).toNat
  if scale = 0 then ⟨fraction, -1074⟩ else ⟨leadingBit + fraction, (scale : Int) - 1075⟩

end Binary64

/-- A decimal `digits * 10 ^ exponent`. -/
structure Scaled where
  digits : Nat
  exponent : Int
deriving DecidableEq, Repr, Inhabited

/-- A power of a base; with a negative exponent it is one. -/
def upward (base : Nat) (exponent : Int) : Nat := Nat.pow base exponent.toNat

/-- Compare `a * 2 ^ p` with `b * 10 ^ q`, exactly. -/
def compareScaled (a : Nat) (p : Int) (b : Nat) (q : Int) : Ordering :=
  compare (a * upward 2 p * upward 10 (-q)) (b * upward 10 q * upward 2 (-p))

/-- The greatest multiple of `10 ^ q` that is not above `a * 2 ^ p`, as a number of steps. -/
def stepsBelow (a : Nat) (p q : Int) : Nat :=
  (a * upward 2 p * upward 10 (-q)) / (upward 10 q * upward 2 (-p))

namespace Binary64

/-- Whether a decimal lies between the ends of the interval of reals that round to the number. -/
def accepts (number : Binary64) (steps : Nat) (q : Int) : Bool :=
  let closed := number.significand % 2 == 0
  let quarters := 4 * number.significand
  let below := if number.significand = leadingBit && -1074 < number.exponent then 1 else 2
  let low := compareScaled (quarters - below) (number.exponent - 2) steps q
  let high := compareScaled (quarters + 2) (number.exponent - 2) steps q
  (low == .lt || (closed && low == .eq)) && (high == .gt || (closed && high == .eq))

/-- Of two neighbouring steps of size `10 ^ q`, the one nearer to the number; a tie goes to
the even one. -/
def nearer (number : Binary64) (steps : Nat) (q : Int) : Nat :=
  match compareScaled (2 * number.significand) number.exponent (2 * steps + 1) q with
  | .lt => steps
  | .gt => steps + 1
  | .eq => if steps % 2 = 0 then steps else steps + 1

/-- The decimal with steps of size `10 ^ q` that rounds to the number, if there is one. -/
def onGrid? (number : Binary64) (q : Int) : Option Scaled :=
  let steps := stepsBelow number.significand number.exponent q
  match number.accepts steps q, number.accepts (steps + 1) q with
  | true, true => some ⟨number.nearer steps q, q⟩
  | true, false => some ⟨steps, q⟩
  | false, true => some ⟨steps + 1, q⟩
  | false, false => none

/-- Try finer and finer grids, `tries` of them, from steps of size `10 ^ q` on. -/
def search (number : Binary64) : Nat → Int → Scaled
  | 0, q => ⟨stepsBelow number.significand number.exponent q, q⟩
  | tries + 1, q => (number.onGrid? q).getD (search number tries (q - 1))

/-- The shortest decimal that rounds to the number, the nearest of those. No number is above
`10 ^ 309`, and none needs steps smaller than `10 ^ -342`. -/
def shortest (number : Binary64) : Scaled := number.search 652 309

end Binary64

/-- The same decimal without trailing zeros among its digits. -/
def Scaled.trimmed (decimal : Scaled) : Scaled :=
  if trailing : decimal.digits ≠ 0 ∧ decimal.digits % 10 = 0 then
    Scaled.trimmed ⟨decimal.digits / 10, decimal.exponent + 1⟩
  else decimal
termination_by decimal.digits
decreasing_by exact Nat.div_lt_self (Nat.pos_of_ne_zero trailing.1) (by decide)

end Switchboard.Decimal
