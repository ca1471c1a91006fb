import Clausal.Proofs.Binary64.Overflow
import Mathlib.Algebra.Order.Floor.Ring
import Mathlib.Data.Rat.Floor
import Mathlib.Tactic.FieldSimp

/-!
# Adding a half

A clause count adds a half to a product and takes the integer part.  The sum is rounded.  What is
less than a half may become one by that, which is the least count anyway.  From a half to `2 ^ 52`
the sum is never moved to another integer: where it is not a multiple of the spacing, it is less
than a half above one.  From `2 ^ 53` on the numbers are even and the half is too small to count.

In between the numbers are the integers.  The half lies in the middle between two of them, and
the middle is rounded to the even one.  So an odd product, which is an integer already, is counted
as one more than it is (`Ratio.clauseCount_eq_floor_iff`).
-/

namespace Clausal

namespace Binary64

/-! ## Rounded quotients -/

theorem le_roundedQuotient_of_mul_le {numerator denominator bound : Nat}
    (hpositive : 0 < denominator) (hreached : bound * denominator ≤ numerator) :
    bound ≤ roundedQuotient numerator denominator :=
  ((Nat.le_div_iff_mul_le hpositive).mpr hreached).trans (div_le_roundedQuotient _ _)

theorem roundedQuotient_le_of_le_mul {numerator denominator bound : Nat}
    (hpositive : 0 < denominator) (hwithin : numerator ≤ bound * denominator) :
    roundedQuotient numerator denominator ≤ bound := by
  apply roundedQuotient_le_of_lt
  rw [Nat.add_mul, Nat.mul_assoc]
  omega

/-- The middle between two numbers is rounded to the even one. -/
theorem roundedQuotient_middle {step : Nat} (hpositive : 0 < step) (number : Nat) :
    roundedQuotient ((2 * number + 1) * step) (2 * step) = number + number % 2 := by
  have hsplit : (2 * number + 1) * step = 2 * step * number + step := by ring
  have hquotient : (2 * number + 1) * step / (2 * step) = number := by
    rw [hsplit, Nat.mul_add_div (by omega), Nat.div_eq_of_lt (by omega), Nat.add_zero]
  have hremainder : (2 * number + 1) * step % (2 * step) = step := by
    rw [hsplit, Nat.mul_add_mod, Nat.mod_eq_of_lt (by omega)]
  rw [roundedQuotient, hquotient, hremainder]
  split <;> omega

theorem roundedUnits_one (units : Nat) :
    roundedUnits units 1 = roundedQuotient units (spacing units) * spacing units := by
  rw [roundedUnits, Nat.div_one, Nat.one_mul]

theorem spacing_pos (units : Nat) : 0 < spacing units := Nat.two_pow_pos _

theorem roundedUnits_of_spacing_dvd {units : Nat} (hprecise : spacing units ∣ units) :
    roundedUnits units 1 = units := by
  obtain ⟨digits, hdigits⟩ := hprecise
  rw [Nat.mul_comm] at hdigits
  have hquotient : roundedQuotient units (spacing units) = digits := by
    apply Nat.le_antisymm
    · exact roundedQuotient_le_of_le_mul (spacing_pos units) hdigits.le
    · exact le_roundedQuotient_of_mul_le (spacing_pos units) hdigits.ge
  rw [roundedUnits_one, hquotient]
  exact hdigits.symm

/-! ## Spacings and powers of two -/

theorem spacing_dvd_two_pow {units exponent : Nat} (hsmall : units < 2 ^ (exponent + 53)) :
    spacing units ∣ 2 ^ exponent := by
  rw [spacing, Nat.pow_eq]
  apply Nat.pow_dvd_pow
  rcases Nat.eq_zero_or_pos units with rfl | hpositive
  · simp
  · have hlog := (Nat.log2_lt hpositive.ne').mpr hsmall
    omega

theorem two_pow_dvd_spacing {units exponent : Nat} (hlarge : 2 ^ (exponent + 52) ≤ units) :
    2 ^ exponent ∣ spacing units := by
  have hnonzero : units ≠ 0 := (Nat.lt_of_lt_of_le (Nat.two_pow_pos _) hlarge).ne'
  have hlog := (Nat.le_log2 hnonzero).mpr hlarge
  rw [spacing, Nat.pow_eq]
  exact Nat.pow_dvd_pow 2 (by omega)

theorem spacing_eq_of_log2_eq {units units' : Nat} (hlog : units.log2 = units'.log2) :
    spacing units = spacing units' := by
  rw [spacing, spacing, hlog]

/-- A number is not rounded beyond a power of two. -/
theorem roundedUnits_le_two_pow {units exponent : Nat} (hwithin : units ≤ 2 ^ exponent) :
    roundedUnits units 1 ≤ 2 ^ exponent := by
  have hpower : 2 ^ exponent < 2 ^ (exponent + 53) := Nat.pow_lt_pow_right (by decide) (by omega)
  obtain ⟨digits, hdigits⟩ := spacing_dvd_two_pow (hwithin.trans_lt hpower)
  rw [roundedUnits_one, hdigits, Nat.mul_comm]
  rw [hdigits, Nat.mul_comm] at hwithin
  exact Nat.mul_le_mul_left _ (roundedQuotient_le_of_le_mul (spacing_pos units) hwithin)

/-- What is less than a half above an integer is rounded, but not to another integer. -/
theorem roundedUnits_div_of_mod_lt {units exponent : Nat} (hsmall : units < 2 ^ (exponent + 1 + 53))
    (hless : units % 2 ^ (exponent + 1) < 2 ^ exponent) :
    roundedUnits units 1 / 2 ^ (exponent + 1) = units / 2 ^ (exponent + 1) := by
  have hone : 2 ^ (exponent + 1) = 2 * 2 ^ exponent := Nat.pow_succ'
  have hdivision := Nat.div_add_mod' units (2 ^ (exponent + 1))
  set whole := units / 2 ^ (exponent + 1) with hwhole
  obtain ⟨digits, hdigits⟩ := spacing_dvd_two_pow hsmall
  have hspacing := spacing_pos units
  have hmany : 0 < digits := by
    rcases Nat.eq_zero_or_pos digits with rfl | hmany
    · omega
    · exact hmany
  -- the next integer is `digits` spacings above this one, and the middle between them is not
  -- reached
  have hupper : roundedQuotient units (spacing units) ≤ whole * digits + (digits - 1) := by
    apply roundedQuotient_le_of_lt
    calc 2 * units < (2 * whole + 1) * 2 ^ (exponent + 1) := by
          rw [Nat.add_mul, Nat.mul_assoc]
          omega
      _ = (2 * (whole * digits) + digits) * spacing units := by
          rw [hdigits]
          ring
      _ ≤ (2 * (whole * digits + (digits - 1)) + 1) * spacing units :=
          Nat.mul_le_mul_right _ (by omega)
  have hlower : whole * digits ≤ roundedQuotient units (spacing units) := by
    apply le_roundedQuotient_of_mul_le hspacing
    calc whole * digits * spacing units = whole * 2 ^ (exponent + 1) := by
          rw [hdigits]
          ring
      _ ≤ units := by omega
  rw [roundedUnits_one, hdigits, Nat.mul_comm (spacing units), Nat.mul_div_mul_right _ _ hspacing]
  apply Nat.div_eq_of_lt_le hlower
  rw [Nat.add_mul]
  omega

theorem add_half_div_of_dvd {units exponent : Nat} (hdvd : 2 ^ (exponent + 1) ∣ units) :
    (units + 2 ^ exponent) / 2 ^ (exponent + 1) = units / 2 ^ (exponent + 1) := by
  have hless : 2 ^ exponent < 2 ^ (exponent + 1) := Nat.pow_lt_pow_right (by decide) (by omega)
  obtain ⟨whole, rfl⟩ := hdvd
  rw [Nat.mul_add_div (Nat.two_pow_pos _), Nat.div_eq_of_lt hless, Nat.add_zero,
    Nat.mul_div_cancel_left _ (Nat.two_pow_pos _)]

/-! ## The sum with a half

The numbers of units in a half and in one are powers of two; here they may be any two powers, one
after the other. -/

section Half

variable {units exponent : Nat} (hprecise : spacing units ∣ units)
include hprecise

/-- Where a number is at least a half above an integer, its sum with a half needs no rounding. -/
theorem spacing_dvd_add_half (hhalf : 2 ^ exponent ≤ units)
    (hsmall : units < 2 ^ (exponent + 53))
    (hreached : 2 ^ exponent ≤ (units + 2 ^ exponent) % 2 ^ (exponent + 1)) :
    spacing (units + 2 ^ exponent) ∣ units + 2 ^ exponent := by
  have hpositive := Nat.two_pow_pos exponent
  have hone : 2 ^ (exponent + 1) = 2 * 2 ^ exponent := Nat.pow_succ'
  set sum := units + 2 ^ exponent with hsum
  have hnonzero : sum ≠ 0 := by omega
  -- the greatest power of two below the sum is a multiple of one, so the number has reached it too
  have hlog : exponent + 1 ≤ sum.log2 := (Nat.le_log2 hnonzero).mpr (by omega)
  obtain ⟨multiple, hmultiple⟩ := Nat.pow_dvd_pow 2 hlog
  have hleading := Nat.log2_self_le hnonzero
  have hbelow : 2 ^ sum.log2 ≤ sum / 2 ^ (exponent + 1) * 2 ^ (exponent + 1) := by
    rw [hmultiple, Nat.mul_comm]
    apply Nat.mul_le_mul_right
    rw [Nat.le_div_iff_mul_le (Nat.two_pow_pos _), Nat.mul_comm, ← hmultiple]
    exact hleading
  have hdivision := Nat.div_add_mod' sum (2 ^ (exponent + 1))
  have hreaches : 2 ^ sum.log2 ≤ units := by omega
  have hlogs : units.log2 = sum.log2 := by
    apply Nat.le_antisymm
    · exact (Nat.le_log2 hnonzero).mpr ((Nat.log2_self_le (by omega)).trans (by omega))
    · exact (Nat.le_log2 (by omega)).mpr hreaches
  rw [← spacing_eq_of_log2_eq hlogs]
  exact hprecise.add (spacing_dvd_two_pow hsmall)

/-- Below `2 ^ 52` the sum with a half is rounded, but not to another integer. -/
theorem roundedUnits_add_half_div (hhalf : 2 ^ exponent ≤ units)
    (hsmall : units < 2 ^ (exponent + 53)) :
    roundedUnits (units + 2 ^ exponent) 1 / 2 ^ (exponent + 1) =
      (units + 2 ^ exponent) / 2 ^ (exponent + 1) := by
  rcases Nat.lt_or_ge ((units + 2 ^ exponent) % 2 ^ (exponent + 1)) (2 ^ exponent) with
    hless | hreached
  · refine roundedUnits_div_of_mod_lt ?_ hless
    have hdouble : 2 ^ (exponent + 1 + 53) = 2 * 2 ^ (exponent + 53) := by ring
    have hpower : 2 ^ exponent < 2 ^ (exponent + 53) :=
      Nat.pow_lt_pow_right (by decide) (by omega)
    omega
  · rw [roundedUnits_of_spacing_dvd (spacing_dvd_add_half hprecise hhalf hsmall hreached)]

/-- From `2 ^ 52` on a number has as many binary digits with a half as without. -/
theorem log2_add_half (hlarge : 2 ^ (exponent + 53) ≤ units) :
    (units + 2 ^ exponent).log2 = units.log2 := by
  have hhalf : 2 ^ exponent < 2 ^ (exponent + 1) := Nat.pow_lt_pow_right (by decide) (by omega)
  have hspacing : 2 ^ (exponent + 1) ≤ spacing units :=
    Nat.le_of_dvd (spacing_pos units) (two_pow_dvd_spacing hlarge)
  have hupper : units < 2 ^ (units.log2 + 1) := Nat.lt_log2_self
  -- the next power of two is a multiple of the spacing too, so it is at least that far away
  have hpower : units < 2 ^ (units.log2 + 1 + 53) :=
    hupper.trans (Nat.pow_lt_pow_right (by decide) (by omega))
  obtain ⟨all, hall⟩ := spacing_dvd_two_pow hpower
  obtain ⟨digits, hdigits⟩ := hprecise
  have hfewer : spacing units * digits < spacing units * all := by
    rw [← hdigits, ← hall]
    exact hupper
  have hnext : spacing units * (digits + 1) ≤ 2 ^ (units.log2 + 1) :=
    hall ▸ Nat.mul_le_mul_left _ (Nat.lt_of_mul_lt_mul_left hfewer)
  rw [Nat.mul_add, ← hdigits, Nat.mul_one] at hnext
  have hpositive : 0 < units := (Nat.two_pow_pos _).trans_le hlarge
  have hlower := Nat.log2_self_le hpositive.ne'
  exact (Nat.log2_eq_iff (by omega)).mpr ⟨by omega, by omega⟩

/-- From `2 ^ 52` to `2 ^ 53` the half lies in the middle between two numbers. -/
theorem roundedUnits_add_half_of_lt (hlarge : 2 ^ (exponent + 53) ≤ units)
    (hsmall : units < 2 ^ (exponent + 54)) :
    roundedUnits (units + 2 ^ exponent) 1 / 2 ^ (exponent + 1) =
      units / 2 ^ (exponent + 1) + units / 2 ^ (exponent + 1) % 2 := by
  have hone : 2 ^ (exponent + 1) = 2 * 2 ^ exponent := Nat.pow_succ'
  have hpositive := Nat.two_pow_pos exponent
  have hspacing : spacing units = 2 ^ (exponent + 1) :=
    Nat.dvd_antisymm (spacing_dvd_two_pow hsmall) (two_pow_dvd_spacing hlarge)
  have hlogs := log2_add_half hprecise hlarge
  obtain ⟨number, hnumber⟩ := hprecise
  rw [hspacing] at hnumber
  have hsum : units + 2 ^ exponent = (2 * number + 1) * 2 ^ exponent := by
    rw [hnumber, hone]
    ring
  rw [roundedUnits_one, spacing_eq_of_log2_eq hlogs, hspacing,
    Nat.mul_div_cancel _ (Nat.two_pow_pos _), hsum, hone, roundedQuotient_middle hpositive,
    ← hone, hnumber, Nat.mul_div_cancel_left _ (Nat.two_pow_pos _)]

/-- From `2 ^ 53` on the half is too small to count. -/
theorem roundedUnits_add_half_of_le (hlarge : 2 ^ (exponent + 54) ≤ units) :
    roundedUnits (units + 2 ^ exponent) 1 = units := by
  have hfour : 2 ^ (exponent + 2) = 4 * 2 ^ exponent := by ring
  have hpositive := Nat.two_pow_pos exponent
  have hspacing : 2 ^ (exponent + 2) ≤ spacing units :=
    Nat.le_of_dvd (spacing_pos units) (two_pow_dvd_spacing hlarge)
  have hlogs := log2_add_half hprecise
    ((Nat.pow_le_pow_right (by decide) (by omega) : 2 ^ (exponent + 53) ≤ _).trans hlarge)
  obtain ⟨digits, hdigits⟩ := hprecise
  have hquotient : roundedQuotient (units + 2 ^ exponent) (spacing units) = digits := by
    apply Nat.le_antisymm
    · apply roundedQuotient_le_of_lt
      rw [Nat.add_mul, Nat.mul_assoc, Nat.mul_comm digits, ← hdigits]
      omega
    · apply le_roundedQuotient_of_mul_le (spacing_pos units)
      rw [Nat.mul_comm, ← hdigits]
      omega
  rw [roundedUnits_one, spacing_eq_of_log2_eq hlogs, hquotient, Nat.mul_comm]
  exact hdigits.symm

/-- The three together: the integer part of the sum with a half changes by the rounding only where
the half lies in the middle between two numbers. -/
theorem roundedUnits_add_half_div_cases (hhalf : 2 ^ exponent ≤ units) :
    let odd := 2 ^ (exponent + 53) ≤ units ∧ units < 2 ^ (exponent + 54) ∧
      units / 2 ^ (exponent + 1) % 2 = 1
    (odd → roundedUnits (units + 2 ^ exponent) 1 / 2 ^ (exponent + 1) =
      (units + 2 ^ exponent) / 2 ^ (exponent + 1) + 1) ∧
    (¬ odd → roundedUnits (units + 2 ^ exponent) 1 / 2 ^ (exponent + 1) =
      (units + 2 ^ exponent) / 2 ^ (exponent + 1)) := by
  intro odd
  rcases lt_or_ge units (2 ^ (exponent + 53)) with hsmall | hlarge
  · rw [roundedUnits_add_half_div hprecise hhalf hsmall]
    exact ⟨fun hodd => absurd hodd.1 (Nat.not_le.mpr hsmall), fun _ => rfl⟩
  rw [add_half_div_of_dvd ((two_pow_dvd_spacing hlarge).trans hprecise)]
  rcases lt_or_ge units (2 ^ (exponent + 54)) with hless | hhuge
  · rw [roundedUnits_add_half_of_lt hprecise hlarge hless]
    constructor
    · rintro ⟨-, -, hodd⟩
      rw [hodd]
    · intro heven
      have hrest : units / 2 ^ (exponent + 1) % 2 = 0 :=
        (Nat.mod_two_eq_zero_or_one _).resolve_right fun hodd => heven ⟨hlarge, hless, hodd⟩
      rw [hrest, Nat.add_zero]
  · rw [roundedUnits_add_half_of_le hprecise hhuge]
    exact ⟨fun hodd => absurd hodd.2.1 (Nat.not_lt.mpr hhuge), fun _ => rfl⟩

end Half

/-! ## Values -/

/-- A number as a fraction; what is not finite has no value but zero. -/
def value : Binary64 → ℚ
  | finite negative units _ _ => signedUnits negative units / unitsPerOne
  | _ => 0

theorem value_finite {negative : Bool} {units : Nat} (precise : spacing units ∣ units)
    (bounded : units < unitsLimit) : (finite negative units precise bounded).value =
      signedUnits negative units / unitsPerOne :=
  rfl

/-- The number is an odd integer where the numbers are the integers. -/
def IsOddWhole (number : Binary64) : Prop :=
  ∃ whole : ℤ, number.value = whole ∧ Odd whole ∧ 2 ^ 52 ≤ whole ∧ whole < 2 ^ 53

theorem IsOddWhole.two_pow_le_floor {number : Binary64} (hodd : number.IsOddWhole) :
    2 ^ 52 ≤ ⌊number.value + 1 / 2⌋ := by
  obtain ⟨whole, hwhole, -, hlower, -⟩ := hodd
  rw [hwhole, Int.floor_intCast_add]
  norm_num
  exact hlower

/-! ## The integer part -/

theorem exists_half_eq_two_pow : ∃ exponent, unitsPerOne = 2 ^ (exponent + 1) ∧
    ∃ precise bounded, half = .finite false (2 ^ exponent) precise bounded := by
  have hunits : roundedUnits unitsPerOne 2 = 2 ^ 1073 := by decide +kernel
  have hbounded : roundedUnits unitsPerOne 2 < unitsLimit := by decide +kernel
  refine ⟨1073, by decide +kernel, ?_⟩
  rw [half, ofQuotient, dif_pos hbounded, ← hunits]
  exact ⟨_, _, rfl⟩

theorem floor_ofQuotient {negative : Bool} {numerator denominator : Nat}
    (hfinite : (ofQuotient negative numerator denominator).isFinite = true) :
    (ofQuotient negative numerator denominator).floor =
      .ok ((signedUnits negative (roundedUnits numerator denominator)).fdiv unitsPerOne) := by
  by_cases hlimit : roundedUnits numerator denominator < unitsLimit
  · rw [ofQuotient, dif_pos hlimit]
    rfl
  · rw [ofQuotient, dif_neg hlimit] at hfinite
    exact absurd hfinite Bool.false_ne_true

theorem signedUnits_false (units : Nat) : signedUnits false units = units := rfl

theorem signedUnits_true (units : Nat) : signedUnits true units = -units := rfl

theorem signedUnits_le (negative : Bool) (units : Nat) : signedUnits negative units ≤ units := by
  cases negative with
  | true =>
      rw [signedUnits_true]
      omega
  | false => exact le_rfl

/-- What is at most a half has at most one when a half is added, however the sum is rounded. -/
theorem rounded_add_half_div_le_one {signed : ℤ} {exponent : Nat}
    (hbelow : signed ≤ (2 ^ exponent : ℕ)) :
    signedUnits (signed + (2 ^ exponent : ℕ) < 0)
      (roundedUnits (signed + (2 ^ exponent : ℕ)).natAbs 1) / (2 ^ (exponent + 1) : ℕ) ≤ 1 := by
  have hone : 2 ^ (exponent + 1) = 2 * 2 ^ exponent := Nat.pow_succ'
  have hpositive := Nat.two_pow_pos exponent
  apply Int.ediv_le_of_le_mul (by omega)
  rw [Int.one_mul]
  by_cases hsign : signed + (2 ^ exponent : ℕ) < 0
  · rw [decide_eq_true hsign, signedUnits_true]
    omega
  · have hwithin : (signed + (2 ^ exponent : ℕ)).natAbs ≤ 2 ^ (exponent + 1) := by omega
    exact (signedUnits_le _ _).trans (Int.ofNat_le.mpr (roundedUnits_le_two_pow hwithin))

theorem rounded_add_half_div_eq (units exponent : Nat) :
    signedUnits ((units : ℤ) + (2 ^ exponent : ℕ) < 0)
      (roundedUnits ((units : ℤ) + (2 ^ exponent : ℕ)).natAbs 1) / (2 ^ (exponent + 1) : ℕ) =
        (roundedUnits (units + 2 ^ exponent) 1 / 2 ^ (exponent + 1) : ℕ) := by
  rw [← Nat.cast_add, decide_eq_false (Int.not_lt.mpr (Int.natCast_nonneg _)), signedUnits_false,
    Int.natAbs_natCast, Int.natCast_ediv]

/-- What comes of a half more, rounded, beside what comes of it without rounding. -/
theorem rounded_add_half_div {negative : Bool} {units exponent : Nat}
    (hprecise : spacing units ∣ units) :
    let sum := signedUnits negative units + (2 ^ exponent : ℕ)
    let exact := sum / (2 ^ (exponent + 1) : ℕ)
    let rounded := signedUnits (sum < 0) (roundedUnits sum.natAbs 1) / (2 ^ (exponent + 1) : ℕ)
    let odd := negative = false ∧ 2 ^ (exponent + 53) ≤ units ∧ units < 2 ^ (exponent + 54) ∧
      units / 2 ^ (exponent + 1) % 2 = 1
    (odd → rounded = exact + 1) ∧ (¬ odd → max 1 rounded = max 1 exact) := by
  intro sum exact rounded odd
  have hpositive := Nat.two_pow_pos exponent
  have hpower : 2 ^ exponent < 2 ^ (exponent + 53) := Nat.pow_lt_pow_right (by decide) (by omega)
  rcases le_or_gt (signedUnits negative units) (2 ^ exponent : ℕ) with hbelow | habove
  · have hrounded : rounded ≤ 1 := rounded_add_half_div_le_one hbelow
    have hexact : exact ≤ 1 := by
      have hone : 2 ^ (exponent + 1) = 2 * 2 ^ exponent := Nat.pow_succ'
      exact Int.ediv_le_of_le_mul (by omega) (by omega)
    refine ⟨?_, fun _ => by rw [max_eq_left hrounded, max_eq_left hexact]⟩
    rintro ⟨rfl, hlarge, -⟩
    rw [signedUnits_false] at hbelow
    omega
  · obtain rfl : negative = false := by
      cases negative with
      | true =>
          rw [signedUnits_true] at habove
          omega
      | false => rfl
    rw [signedUnits_false] at habove
    have hrounded : rounded = (roundedUnits (units + 2 ^ exponent) 1 / 2 ^ (exponent + 1) : ℕ) :=
      rounded_add_half_div_eq units exponent
    have hexact : exact = ((units + 2 ^ exponent) / 2 ^ (exponent + 1) : ℕ) := by
      rw [Int.natCast_ediv, Nat.cast_add]
      rfl
    have hhalf : 2 ^ exponent ≤ units := by omega
    obtain ⟨hodd, heven⟩ := roundedUnits_add_half_div_cases hprecise hhalf
    rw [hrounded, hexact]
    constructor
    · rintro ⟨-, hwhole⟩
      rw [hodd hwhole]
      rfl
    · intro hnot
      rw [heven fun hwhole => hnot ⟨rfl, hwhole⟩]

/-- The odd integers between `2 ^ 52` and `2 ^ 53`, in units. -/
theorem exists_odd_whole_iff {negative : Bool} {units exponent : Nat} :
    (∃ whole : ℤ, signedUnits negative units = whole * (2 ^ (exponent + 1) : ℕ) ∧ Odd whole ∧
      2 ^ 52 ≤ whole ∧ whole < 2 ^ 53) ↔ negative = false ∧ 2 ^ (exponent + 53) ≤ units ∧
      units < 2 ^ (exponent + 54) ∧ 2 ^ (exponent + 1) ∣ units ∧
      units / 2 ^ (exponent + 1) % 2 = 1 := by
  have hpositive := Nat.two_pow_pos (exponent + 1)
  have hlowest : 2 ^ (exponent + 53) = 2 ^ (exponent + 1) * 2 ^ 52 := by ring
  have hhighest : 2 ^ (exponent + 54) = 2 ^ (exponent + 1) * 2 ^ 53 := by ring
  rw [hlowest, hhighest]
  constructor
  · rintro ⟨whole, hunits, hodd, hlower, hupper⟩
    lift whole to ℕ using by omega
    cases negative with
    | true =>
        -- a negative number is no positive integer
        have hproduct : (0 : ℤ) < whole * (2 ^ (exponent + 1) : ℕ) :=
          mul_pos (by omega) (by exact_mod_cast hpositive)
        rw [signedUnits_true] at hunits
        omega
    | false =>
        have hunits : units = 2 ^ (exponent + 1) * whole := by
          rw [signedUnits_false, mul_comm] at hunits
          exact_mod_cast hunits
        rw [hunits, Nat.mul_div_cancel_left _ hpositive]
        refine ⟨rfl, Nat.mul_le_mul_left _ (by omega),
          Nat.mul_lt_mul_of_pos_left (by omega) hpositive, Nat.dvd_mul_right _ _,
          Nat.odd_iff.mp (by exact_mod_cast hodd)⟩
  · rintro ⟨rfl, hlarge, hsmall, ⟨whole, rfl⟩, hodd⟩
    rw [Nat.mul_div_cancel_left _ hpositive] at hodd
    refine ⟨whole, ?_, ?_, ?_, ?_⟩
    · rw [mul_comm (whole : ℤ)]
      exact Nat.cast_mul _ _
    · exact_mod_cast Nat.odd_iff.mpr hodd
    · exact_mod_cast Nat.le_of_mul_le_mul_left hlarge hpositive
    · exact_mod_cast Nat.lt_of_mul_lt_mul_left hsmall

section Finite

variable {negative : Bool} {units exponent : Nat} {precise : spacing units ∣ units}
  {bounded : units < unitsLimit} (hone : unitsPerOne = 2 ^ (exponent + 1))
include hone

theorem floor_value_add_half :
    ⌊(finite negative units precise bounded).value + 1 / 2⌋ =
      (signedUnits negative units + (2 ^ exponent : ℕ)) / (2 ^ (exponent + 1) : ℕ) := by
  have hvalue : (finite negative units precise bounded).value + 1 / 2 =
      ((signedUnits negative units + (2 ^ exponent : ℕ) : ℤ) : ℚ) /
        ((2 ^ (exponent + 1) : ℕ) : ℚ) := by
    rw [value_finite, hone]
    push_cast
    field_simp
    ring
  rw [hvalue, Rat.floor_intCast_div_natCast]

theorem value_eq_iff {whole : ℤ} : (finite negative units precise bounded).value = whole ↔
    signedUnits negative units = whole * (2 ^ (exponent + 1) : ℕ) := by
  have hnonzero : ((2 ^ (exponent + 1) : ℕ) : ℚ) ≠ 0 :=
    Nat.cast_ne_zero.mpr (Nat.two_pow_pos _).ne'
  rw [value_finite, hone, div_eq_iff hnonzero, ← Int.cast_natCast, ← Int.cast_mul, Int.cast_inj]

theorem isOddWhole_finite_iff :
    (finite negative units precise bounded).IsOddWhole ↔ negative = false ∧
      2 ^ (exponent + 53) ≤ units ∧ units < 2 ^ (exponent + 54) ∧
      units / 2 ^ (exponent + 1) % 2 = 1 := by
  simp only [IsOddWhole, value_eq_iff hone, exists_odd_whole_iff]
  refine and_congr_right fun _ => and_congr_right fun hlarge => and_congr_right fun _ => ?_
  exact and_iff_right ((two_pow_dvd_spacing hlarge).trans precise)

variable {halfPrecise : spacing (2 ^ exponent) ∣ 2 ^ exponent}
  {halfBounded : 2 ^ exponent < unitsLimit}
  (hhalf : half = .finite false (2 ^ exponent) halfPrecise halfBounded)
include hhalf

theorem floor_add_half_eq : (finite negative units precise bounded + half).floor =
    let sum := signedUnits negative units + (2 ^ exponent : ℕ)
    .ok (signedUnits (sum < 0) (roundedUnits sum.natAbs 1) / (2 ^ (exponent + 1) : ℕ)) := by
  have hfinite : (finite negative units precise bounded + half).isFinite = true :=
    isFinite_add_half rfl
  rw [hhalf] at hfinite ⊢
  change (add _ _).isFinite = true at hfinite
  change (add _ _).floor = _
  rw [add] at hfinite ⊢
  rw [floor_ofQuotient hfinite, hone, Int.fdiv_eq_ediv_of_nonneg _ (Int.natCast_nonneg _),
    signedUnits_false, Bool.and_false, Bool.or_false]

end Finite

/-- A half more, rounded, has the integer part that it has without rounding, as far as this is more
than one; but the integer part of an odd integer with nothing between it and the next is one more
than that. -/
theorem exists_floor_add_half {number : Binary64} (hfinite : number.isFinite = true) :
    ∃ count, (number + half).floor = .ok count ∧
      (number.IsOddWhole → count = ⌊number.value + 1 / 2⌋ + 1) ∧
      (¬ number.IsOddWhole → max 1 count = max 1 ⌊number.value + 1 / 2⌋) := by
  obtain ⟨exponent, hone, halfPrecise, halfBounded, hhalf⟩ := exists_half_eq_two_pow
  cases number with
  | infinite negative => exact absurd hfinite Bool.false_ne_true
  | nan => exact absurd hfinite Bool.false_ne_true
  | finite negative units precise bounded =>
      refine ⟨_, floor_add_half_eq hone hhalf, ?_⟩
      rw [floor_value_add_half hone, isOddWhole_finite_iff hone]
      exact rounded_add_half_div precise

end Binary64

namespace Ratio

open Binary64

/-! ## Counts -/

theorem exists_product_eq_of_any (text : String) (letters : Int) (product : ℚ)
    (hany : (Ratio.read text).toOption.any (fun ratio =>
      (Binary64.ofInt letters).toOption.any fun factor =>
        (ratio * factor).isFinite && (ratio * factor).value == product) = true) :
    ∃ ratio factor, Ratio.read text = .ok ratio ∧ Binary64.ofInt letters = .ok factor ∧
      (ratio * factor).isFinite = true ∧ (ratio * factor).value = product := by
  obtain ⟨ratio, hratio, hany⟩ := Except.toOption_any_eq_true_iff.mp hany
  obtain ⟨factor, hletters, hproduct⟩ := Except.toOption_any_eq_true_iff.mp hany
  rw [Bool.and_eq_true, beq_iff_eq] at hproduct
  exact ⟨ratio, factor, hratio, hletters, hproduct⟩

section Count

variable {ratio factor : Binary64} {letters : Int}
  (hletters : Binary64.ofInt letters = .ok factor) (hfinite : (ratio * factor).isFinite = true)
include hletters hfinite

theorem clauseCount_of_not_isOddWhole (hnot : ¬ (ratio * factor).IsOddWhole) :
    clauseCount ratio letters = .ok (max 1 ⌊(ratio * factor).value + 1 / 2⌋) := by
  obtain ⟨count, hfloor, -, hnearest⟩ := exists_floor_add_half hfinite
  rw [clauseCount_eq_map_floor hletters, hfloor, ← hnearest hnot]
  rfl

theorem clauseCount_of_isOddWhole (hodd : (ratio * factor).IsOddWhole) :
    clauseCount ratio letters = .ok (⌊(ratio * factor).value + 1 / 2⌋ + 1) := by
  obtain ⟨count, hfloor, hnext, -⟩ := exists_floor_add_half hfinite
  have hlarge := hodd.two_pow_le_floor
  have hcount : max 1 count = ⌊(ratio * factor).value + 1 / 2⌋ + 1 := by
    rw [hnext hodd]
    omega
  rw [clauseCount_eq_map_floor hletters, hfloor, ← hcount]
  rfl

/-- The count is the integer nearest to the product, halves upwards and one at least, unless the
product is an odd integer with nothing between it and the next; then it is one more. -/
theorem clauseCount_eq_floor_iff :
    (clauseCount ratio letters = .ok (max 1 ⌊(ratio * factor).value + 1 / 2⌋) ↔
        ¬ (ratio * factor).IsOddWhole) ∧
      ((ratio * factor).IsOddWhole →
        clauseCount ratio letters = .ok (⌊(ratio * factor).value + 1 / 2⌋ + 1)) := by
  refine ⟨⟨fun hnearest hodd => ?_, clauseCount_of_not_isOddWhole hletters hfinite⟩,
    clauseCount_of_isOddWhole hletters hfinite⟩
  have hlarge := hodd.two_pow_le_floor
  rw [clauseCount_of_isOddWhole hletters hfinite hodd, Except.ok.injEq] at hnearest
  omega

end Count

/-- A half is rounded up. -/
theorem clauseCount_quarter_eq_seven : ∃ ratio factor, Ratio.read "0.25" = .ok ratio ∧
    Binary64.ofInt usualLetters = .ok factor ∧ (ratio * factor).isFinite = true ∧
      (ratio * factor).value = 13 / 2 ∧ clauseCount ratio usualLetters = .ok 7 := by
  obtain ⟨ratio, factor, hratio, hletters, hfinite, hproduct⟩ :=
    exists_product_eq_of_any "0.25" usualLetters (13 / 2) (by decide +kernel)
  have hnot : ¬ (ratio * factor).IsOddWhole := by
    rintro ⟨whole, hwhole, -, hlower, -⟩
    have hlarge : (2 ^ 52 : ℚ) ≤ whole := by exact_mod_cast hlower
    rw [← hwhole, hproduct] at hlarge
    norm_num at hlarge
  have hcount := (clauseCount_eq_floor_iff hletters hfinite).1.mpr hnot
  rw [hproduct] at hcount
  norm_num at hcount
  exact ⟨ratio, factor, hratio, hletters, hfinite, hproduct, hcount⟩

/-- An odd integer of that size is not rounded to itself. -/
theorem clauseCount_odd_product_ne : ∃ ratio factor, Ratio.read "173215370283481.5" = .ok ratio ∧
    Binary64.ofInt usualLetters = .ok factor ∧ (ratio * factor).isFinite = true ∧
      (ratio * factor).value = 4503599627370519 ∧
      clauseCount ratio usualLetters = .ok 4503599627370520 ∧
      clauseCount ratio usualLetters ≠ .ok (max 1 ⌊(ratio * factor).value + 1 / 2⌋) := by
  obtain ⟨ratio, factor, hratio, hletters, hfinite, hproduct⟩ :=
    exists_product_eq_of_any "173215370283481.5" usualLetters 4503599627370519 (by decide +kernel)
  have hodd : (ratio * factor).IsOddWhole :=
    ⟨4503599627370519, by rw [hproduct]; rfl, by decide, by decide, by decide⟩
  have hfloor : ⌊(ratio * factor).value + 1 / 2⌋ = 4503599627370519 := by
    rw [hproduct]
    norm_num
  have hcount := clauseCount_of_isOddWhole hletters hfinite hodd
  rw [hfloor] at hcount
  refine ⟨ratio, factor, hratio, hletters, hfinite, hproduct, hcount, ?_⟩
  rw [hcount, hfloor]
  decide

end Ratio

end Clausal
