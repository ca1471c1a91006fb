import Clausal.Decimal.Shortest

/-!
# How a number is written

A number is written by its shortest decimal.  A record of the format's decisions says
where positional notation ends and how an exponent looks.
-/

namespace Clausal

namespace Decimal

/-- The decisions of a number format. -/
structure Style where
  /-- The least power of ten, of the leading digit, that is written positionally. -/
  leastPositional : Int
  /-- The least power of ten above it that is not. -/
  leastExponential : Int
  /-- The mark of the exponent. -/
  exponentMark : Char
  /-- The least number of digits of an exponent. -/
  exponentWidth : Nat
  /-- What follows a whole number in positional notation. -/
  wholeEnding : String
  infinity : String
  undefined : String

/-- Ratios are positional from a ten-thousandth to below ten to the sixteenth, and a
whole number in that range ends with a zero after the point; exponents have a sign and
two digits at least. -/
def ratioStyle : Style where
  leastPositional := -4
  leastExponential := 16
  exponentMark := 'e'
  exponentWidth := 2
  wholeEnding := ".0"
  infinity := "inf"
  undefined := "nan"

/-- A list of digits with zeros put in front up to a width. -/
def padded (width : Nat) (digits : List Char) : List Char :=
  List.replicate (width - digits.length) '0' ++ digits

/-- A decimal in positional notation. -/
def positional (style : Style) (decimal : Digits) : String :=
  let digits := Nat.toDigits 10 decimal.digits
  if 0 ≤ decimal.exponent then
    String.ofList (digits ++ List.replicate decimal.exponent.toNat '0') ++ style.wholeEnding
  else
    let places := (-decimal.exponent).toNat
    let digits := padded (places + 1) digits
    String.ofList (digits.take (digits.length - places) ++ '.' ::
      digits.drop (digits.length - places))

/-- A decimal with the exponent of its leading digit written out. -/
def exponential (style : Style) (decimal : Digits) : String :=
  let digits := Nat.toDigits 10 decimal.digits
  let power := decimal.exponent + (digits.length - 1 : Nat)
  let mantissa := match digits with
    | leading :: (next :: rest) => leading :: '.' :: next :: rest
    | _ => digits
  let exponent := padded style.exponentWidth (Nat.toDigits 10 power.natAbs)
  String.ofList (mantissa ++ style.exponentMark :: (if power < 0 then '-' else '+') :: exponent)

/-- A decimal in the notation that the style has for its size. -/
def written (style : Style) (decimal : Digits) : String :=
  let power := decimal.exponent + ((Nat.toDigits 10 decimal.digits).length - 1 : Nat)
  if decimal.digits = 0 ∨ (style.leastPositional ≤ power ∧ power < style.leastExponential) then
    positional style decimal
  else exponential style decimal

example : written ratioStyle ⟨22, -1⟩ = "2.2" := by decide +kernel

example : written ratioStyle ⟨1, 15⟩ = "1000000000000000.0" := by decide +kernel

example : written ratioStyle ⟨1, 16⟩ = "1e+16" := by decide +kernel

example : written ratioStyle ⟨1, -4⟩ = "0.0001" := by decide +kernel

example : written ratioStyle ⟨15, -6⟩ = "1.5e-05" := by decide +kernel

end Decimal

/-- A number in the notation of ratios. -/
def Binary64.text : Binary64 → String
  | finite negative units _ _ =>
    let decimal := if units = 0 then ⟨0, 0⟩ else Decimal.shortest units
    (if negative then "-" else "") ++ Decimal.written Decimal.ratioStyle decimal
  | infinite negative => (if negative then "-" else "") ++ Decimal.ratioStyle.infinity
  | nan => Decimal.ratioStyle.undefined

end Clausal
