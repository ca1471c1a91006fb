/-!
# Double-precision numbers

A finite double-precision number is a sign and a natural number of units, the unit
being the least positive such number, `2 ^ (-1074)`.  A number of units is precise if
at most its leading 53 binary digits are not zero, and it stays below `2 ^ 1024`,
which is `2 ^ 2098` units.

A quotient of natural numbers is rounded to the nearest precise number of units, a
half going to the even neighbour; the arithmetic of this type is the exact arithmetic
of units followed by that rounding.
-/

namespace Clausal

namespace Binary64

/-- The number of units in one. -/
def unitsPerOne : Nat := Nat.pow 2 1074

/-- The least number of units that is too large to be finite. -/
def unitsLimit : Nat := Nat.pow 2 2098

/-- The least number that needs more than 53 binary digits. -/
def digitsLimit : Nat := Nat.pow 2 53

/-- The distance between the precise numbers of units near a given one. -/
def spacing (units : Nat) : Nat := Nat.pow 2 (units.log2 - 52)

/-- The quotient rounded to the nearest natural number, a half to the even one. -/
def roundedQuotient (numerator denominator : Nat) : Nat :=
  let quotient := numerator / denominator
  let remainder := numerator % denominator
  if denominator < 2 * remainder ∨ (denominator = 2 * remainder ∧ quotient % 2 = 1) then
    quotient + 1
  else quotient

/-- A quotient in units, rounded to the nearest precise number of units. -/
def roundedUnits (numerator denominator : Nat) : Nat :=
  let step := spacing (numerator / denominator)
  roundedQuotient numerator (denominator * step) * step

theorem roundedQuotient_le_succ (numerator denominator : Nat) :
    roundedQuotient numerator denominator ≤ numerator / denominator + 1 := by
  unfold roundedQuotient
  dsimp only
  split <;> omega

/-- Dividing a number by its spacing leaves at most 53 binary digits. -/
theorem div_spacing_lt_digitsLimit (units : Nat) : units / spacing units < digitsLimit := by
  rw [spacing, digitsLimit, Nat.pow_eq, Nat.pow_eq,
    Nat.div_lt_iff_lt_mul (Nat.two_pow_pos _), ← Nat.pow_add]
  have upper : units < 2 ^ (units.log2 + 1) := Nat.lt_log2_self
  exact Nat.lt_of_lt_of_le upper (Nat.pow_le_pow_right (by omega) (by omega))

/-- What at most 53 binary digits, or the power of two after them, make with a power
of two is a multiple of its own spacing. -/
theorem spacing_dvd_mul_two_pow {digits : Nat} (few : digits ≤ digitsLimit) (shift : Nat) :
    spacing (digits * Nat.pow 2 shift) ∣ digits * Nat.pow 2 shift := by
  simp only [spacing, digitsLimit, Nat.pow_eq] at few ⊢
  rcases Nat.eq_zero_or_pos digits with rfl | positive
  · simp
  · have product : digits * 2 ^ shift ≠ 0 := by
      have := Nat.mul_pos positive (Nat.two_pow_pos shift)
      omega
    rcases Nat.lt_or_eq_of_le few with fewer | rfl
    · have bound : (digits * 2 ^ shift).log2 < 53 + shift := by
        rw [Nat.log2_lt product, Nat.pow_add]
        exact Nat.mul_lt_mul_of_pos_right fewer (Nat.two_pow_pos shift)
      have small : (digits * 2 ^ shift).log2 - 52 ≤ shift := by omega
      exact Nat.dvd_trans (Nat.pow_dvd_pow 2 small) (Nat.dvd_mul_left _ _)
    · rw [← Nat.pow_add, Nat.log2_two_pow]
      exact Nat.pow_dvd_pow 2 (by omega)

/-- Rounding makes a number of units precise. -/
theorem spacing_dvd_roundedUnits (numerator denominator : Nat) :
    spacing (roundedUnits numerator denominator) ∣ roundedUnits numerator denominator := by
  apply spacing_dvd_mul_two_pow
  have bound := div_spacing_lt_digitsLimit (numerator / denominator)
  rw [Nat.div_div_eq_div_mul] at bound
  have := roundedQuotient_le_succ numerator (denominator * spacing (numerator / denominator))
  change roundedQuotient numerator (denominator * spacing (numerator / denominator)) ≤ digitsLimit
  omega

end Binary64

/-- A double-precision number. -/
inductive Binary64 where
  | finite (negative : Bool) (units : Nat)
      (precise : Binary64.spacing units ∣ units) (bounded : units < Binary64.unitsLimit)
  | infinite (negative : Bool)
  | nan

namespace Binary64

/-- The number of the given sign nearest to a quotient in units; one that is too large
is infinite. -/
def ofQuotient (negative : Bool) (numerator denominator : Nat) : Binary64 :=
  if bounded : roundedUnits numerator denominator < unitsLimit then
    finite negative (roundedUnits numerator denominator)
      (spacing_dvd_roundedUnits numerator denominator) bounded
  else infinite negative

/-- Why an integer has no nearest number, or a number no integer part. -/
inductive Fault where
  | tooLarge
  | infinite
  | undefined
  deriving DecidableEq, Repr

/-- The wording of the fault. -/
def Fault.message : Fault → String
  | .tooLarge => "int too large to convert to float"
  | .infinite => "cannot convert float infinity to integer"
  | .undefined => "cannot convert float NaN to integer"

/-- The number nearest to an integer, unless it would be infinite. -/
def ofInt (n : Int) : Except Fault Binary64 :=
  match ofQuotient (n < 0) (n.natAbs * unitsPerOne) 1 with
  | infinite _ => .error .tooLarge
  | number => .ok number

/-- One half. -/
def half : Binary64 := ofQuotient false unitsPerOne 2

/-- Whether a number is neither infinite nor undefined. -/
def isFinite : Binary64 → Bool
  | finite .. => true
  | _ => false

/-- The rounded product. -/
def mul : Binary64 → Binary64 → Binary64
  | finite negative units _ _, finite negative' units' _ _ =>
    ofQuotient (negative ^^ negative') (units * units') unitsPerOne
  | finite negative units _ _, infinite negative' =>
    if units = 0 then nan else infinite (negative ^^ negative')
  | infinite negative, finite negative' units _ _ =>
    if units = 0 then nan else infinite (negative ^^ negative')
  | infinite negative, infinite negative' => infinite (negative ^^ negative')
  | nan, _ => nan
  | _, nan => nan

instance : Mul Binary64 := ⟨mul⟩

/-- A number of units with its sign. -/
def signedUnits (negative : Bool) (units : Nat) : Int :=
  if negative then -(units : Int) else units

/-- The rounded sum.  A sum of zero is negative only if both summands are. -/
def add : Binary64 → Binary64 → Binary64
  | finite negative units _ _, finite negative' units' _ _ =>
    let sum := signedUnits negative units + signedUnits negative' units'
    ofQuotient (sum < 0 || (sum == 0 && negative && negative')) sum.natAbs 1
  | finite .., infinite negative => infinite negative
  | infinite negative, finite .. => infinite negative
  | infinite negative, infinite negative' =>
    if negative = negative' then infinite negative else nan
  | nan, _ => nan
  | _, nan => nan

instance : Add Binary64 := ⟨add⟩

/-- The greatest integer that is not above a number. -/
def floor : Binary64 → Except Fault Int
  | finite negative units _ _ => .ok ((signedUnits negative units).fdiv unitsPerOne)
  | infinite _ => .error .infinite
  | nan => .error .undefined

end Binary64

end Clausal
