import Clausal.Binary64.Basic

/-!
# The shortest decimal of a number

A finite number other than zero is the nearest one to a whole interval of reals, and
is written with the fewest decimal digits that name a real of that interval; of two
such decimals the nearer one is taken.  The ends of the interval belong to it if the
number's last binary digit is even.

For a given number of digits only the two neighbours of the number on that decimal
grid have to be tried.  Seventeen digits always suffice.
-/

namespace Clausal

namespace Decimal

/-- A decimal without sign: a natural number times a power of ten. -/
structure Digits where
  digits : Nat
  exponent : Int
  deriving DecidableEq, Repr

namespace Digits

/-- The decimal with all zeros at the end of its digits moved into the exponent, as far
as the bound on their number allows. -/
def trimZeros : Nat → Digits → Digits
  | 0, decimal => decimal
  | bound + 1, decimal =>
    if decimal.digits ≠ 0 ∧ decimal.digits % 10 = 0 then
      trimZeros bound ⟨decimal.digits / 10, decimal.exponent + 1⟩
    else decimal

end Digits

/-- The interval of reals that are rounded to a number of units, in quarters of the
unit of the finest spacing, so that its ends are natural numbers. -/
structure Interval where
  lower : Nat
  center : Nat
  upper : Nat
  closed : Bool

/-- The interval around a positive number of units.  Below a power of two the spacing
is half as wide. -/
def Interval.around (units : Nat) : Interval :=
  let spacing := Binary64.spacing units
  let below := if units = Nat.pow 2 units.log2 ∧ 1 < spacing then spacing else 2 * spacing
  ⟨4 * units - below, 4 * units, 4 * units + 2 * spacing, units / spacing % 2 = 0⟩

/-- Whether a real, given as a quotient of quarters of a unit, lies in the interval. -/
def Interval.holds (interval : Interval) (numerator denominator : Nat) : Bool :=
  let above := if interval.closed then interval.lower * denominator ≤ numerator
    else interval.lower * denominator < numerator
  let below := if interval.closed then numerator ≤ interval.upper * denominator
    else numerator < interval.upper * denominator
  above && below

/-- The quarters of a unit in one. -/
def quartersPerOne : Nat := 4 * Binary64.unitsPerOne

/-- The decimal of the grid `10 ^ exponent` that lies in the interval and is nearest to
its center, if any does.  An exact tie goes to the even one. -/
def onGrid? (interval : Interval) (exponent : Int) : Option Digits :=
  -- a grid point `n` is `n * scale / divisor` quarters of a unit
  let scale := quartersPerOne * Nat.pow 10 exponent.toNat
  let divisor := Nat.pow 10 (-exponent).toNat
  let floor := interval.center * divisor / scale
  let remainder := interval.center * divisor % scale
  let lowerHolds := floor ≠ 0 && interval.holds (floor * scale) divisor
  let upperHolds := interval.holds ((floor + 1) * scale) divisor
  let lowerNearer := 2 * remainder < scale ∨ (2 * remainder = scale ∧ floor % 2 = 0)
  match lowerHolds, upperHolds with
  | true, true => some ⟨if lowerNearer then floor else floor + 1, exponent⟩
  | true, false => some ⟨floor, exponent⟩
  | false, true => some ⟨floor + 1, exponent⟩
  | false, false => none

/-- The number of decimal digits before the point of a positive number of units, or the
negated number of zeros after it. -/
def magnitude (units : Nat) : Int :=
  let whole := units / Binary64.unitsPerOne
  if whole = 0 then
    -- the least shift that brings a digit before the point
    let shift := ((List.range 330).find? fun shift =>
      Binary64.unitsPerOne ≤ units * Nat.pow 10 shift).getD 0
    1 - shift
  else (Nat.toDigits 10 whole).length

/-- The shortest decimal of a positive number of units. -/
def shortest (units : Nat) : Digits :=
  let interval := Interval.around units
  let places := magnitude units
  let found := (List.range 17).findSome? fun (fewer : Nat) =>
    onGrid? interval (places - (fewer + 1))
  (found.getD ⟨0, 0⟩).trimZeros 18

/-- The least positive number is written with one digit, although two would be nearer. -/
example : shortest 1 = ⟨5, -324⟩ := by decide +kernel

end Decimal

end Clausal
