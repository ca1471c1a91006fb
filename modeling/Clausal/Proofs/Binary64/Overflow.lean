import Clausal.Proofs.Files.Writing
import Clausal.Ratio
import Mathlib.Tactic.Ring

/-!
# Where numbers become infinite

The greatest finite numbers are `2 ^ 2045` units apart, and the greatest of all is that far
below the limit.  A quotient is rounded to a finite number if and only if it stays below the
middle between the two (`isFinite_ofQuotient_iff`).

So a ratio has a finite product with the number of letters as long as the exact product stays
below that middle (`exists_product`).  The half that is added to it is much smaller than the
distance between great numbers and never makes it infinite (`isFinite_add_half`).  A ratio
therefore has a clause count unless it is too large (`Ratio.TooLarge`).
-/

namespace Clausal

namespace Binary64

/-- Half the distance between the greatest numbers. -/
@[irreducible] def halfTopSpacing : Nat := Nat.pow 2 2044

/-- The powers of two that are compared with that distance. -/
theorem halfTopSpacing_powers :
    halfTopSpacing = Nat.pow 2 2044 ∧ 2 * halfTopSpacing = Nat.pow 2 (2097 - 52) ∧
      2 ^ 53 * halfTopSpacing = Nat.pow 2 2097 ∧ unitsLimit = Nat.pow 2 2098 ∧
      unitsLimit = 2 ^ 54 * halfTopSpacing ∧ 0 < halfTopSpacing := by
  decide +kernel

theorem unitsLimit_eq : unitsLimit = 2 ^ 54 * halfTopSpacing := halfTopSpacing_powers.2.2.2.2.1

theorem halfTopSpacing_pos : 0 < halfTopSpacing := halfTopSpacing_powers.2.2.2.2.2

theorem log2_lt_iff_of_eq_pow {units limit bits : Nat} (hlimit : limit = Nat.pow 2 bits)
    (hpositive : 0 < units) : units.log2 < bits ↔ units < limit := by
  rw [hlimit]
  exact Nat.log2_lt (Nat.ne_of_gt hpositive)

theorem spacing_le_of_eq_pow {units limit bits : Nat} (hlimit : limit = Nat.pow 2 bits)
    (hbits : units.log2 ≤ bits + 52) : spacing units ≤ limit := by
  rw [hlimit]
  exact Nat.pow_le_pow_right (by omega) (by omega)

theorem log2_le_of_lt_unitsLimit {units : Nat} (hbounded : units < unitsLimit) :
    units.log2 ≤ 2097 := by
  obtain ⟨-, -, -, hlimit, -⟩ := halfTopSpacing_powers
  rcases Nat.eq_zero_or_pos units with rfl | hpositive
  · simp
  · exact Nat.le_of_lt_succ ((log2_lt_iff_of_eq_pow hlimit hpositive).mpr hbounded)

theorem spacing_of_log2_eq {units : Nat} (htop : units.log2 = 2097) :
    spacing units = 2 * halfTopSpacing := by
  rw [spacing, htop, halfTopSpacing_powers.2.1]

theorem spacing_le_of_log2_lt {units : Nat} (hbelow : units.log2 < 2097) :
    spacing units ≤ halfTopSpacing :=
  spacing_le_of_eq_pow halfTopSpacing_powers.1 (Nat.le_of_lt_succ hbelow)

/-! ## Rounding below the limit -/

/-- What is less than a half above a number is not rounded beyond it. -/
theorem roundedQuotient_le_of_lt {numerator denominator bound : Nat}
    (hbelow : 2 * numerator < (2 * bound + 1) * denominator) :
    roundedQuotient numerator denominator ≤ bound := by
  have hpositive : 0 < denominator := by
    rcases Nat.eq_zero_or_pos denominator with rfl | hpositive
    · simp at hbelow
    · exact hpositive
  have hmiddle : (2 * bound + 1) * denominator = 2 * (bound * denominator) + denominator := by ring
  rw [hmiddle] at hbelow
  have hquotient : numerator / denominator ≤ bound := by
    rw [← Nat.lt_succ_iff, Nat.div_lt_iff_lt_mul hpositive, Nat.succ_mul]
    omega
  rcases Nat.lt_or_eq_of_le hquotient with hless | hequal
  · exact (roundedQuotient_le_succ numerator denominator).trans hless
  · have hremainder := Nat.div_add_mod' numerator denominator
    rw [hequal] at hremainder
    have hdown : 2 * (numerator % denominator) < denominator := by omega
    rw [roundedQuotient, hequal, if_neg (by omega)]

/-- A quotient below the middle between the greatest number and the limit is not rounded to the
limit. -/
theorem roundedUnits_lt_unitsLimit {numerator denominator : Nat}
    (hbelow : numerator < (2 ^ 54 - 1) * (denominator * halfTopSpacing)) :
    roundedUnits numerator denominator < unitsLimit := by
  have hpositive : 0 < denominator := by
    rcases Nat.eq_zero_or_pos denominator with rfl | hpositive
    · simp at hbelow
    · exact hpositive
  have hbounded : numerator / denominator < unitsLimit := by
    rw [Nat.div_lt_iff_lt_mul hpositive, unitsLimit_eq, Nat.mul_assoc,
      Nat.mul_comm halfTopSpacing]
    omega
  rw [roundedUnits]
  rcases Nat.lt_or_eq_of_le (log2_le_of_lt_unitsLimit hbounded) with hlog | hlog
  · -- the numbers of units that may result are at most half as far apart
    have hdigits := div_spacing_lt_digitsLimit (numerator / denominator)
    rw [Nat.div_div_eq_div_mul] at hdigits
    calc roundedQuotient numerator (denominator * spacing (numerator / denominator)) *
          spacing (numerator / denominator)
        ≤ digitsLimit * halfTopSpacing :=
          Nat.mul_le_mul ((roundedQuotient_le_succ _ _).trans hdigits) (spacing_le_of_log2_lt hlog)
      _ < unitsLimit := by
          rw [unitsLimit_eq]
          exact Nat.mul_lt_mul_of_pos_right (by decide) halfTopSpacing_pos
  · rw [spacing_of_log2_eq hlog]
    have hrounded :
        roundedQuotient numerator (denominator * (2 * halfTopSpacing)) ≤ 2 ^ 53 - 1 := by
      apply roundedQuotient_le_of_lt
      rw [Nat.mul_left_comm denominator]
      omega
    calc roundedQuotient numerator (denominator * (2 * halfTopSpacing)) * (2 * halfTopSpacing)
        ≤ (2 ^ 53 - 1) * (2 * halfTopSpacing) := Nat.mul_le_mul_right _ hrounded
      _ < unitsLimit := by
          have hpositive := halfTopSpacing_pos
          rw [unitsLimit_eq]
          omega

/-! ## Rounding from the middle on -/

theorem div_le_roundedQuotient (numerator denominator : Nat) :
    numerator / denominator ≤ roundedQuotient numerator denominator := by
  rw [roundedQuotient]
  split <;> omega

/-- What is at least the middle below an even number is rounded to it or beyond. -/
theorem le_roundedQuotient_of_le {numerator denominator bound : Nat} (hpositive : 0 < denominator)
    (hreached : (4 * bound + 3) * denominator ≤ 2 * numerator) :
    2 * bound + 2 ≤ roundedQuotient numerator denominator := by
  have hmiddle : (4 * bound + 3) * denominator =
      2 * ((2 * bound + 1) * denominator) + denominator := by ring
  rw [hmiddle] at hreached
  have hquotient : 2 * bound + 1 ≤ numerator / denominator := by
    rw [Nat.le_div_iff_mul_le hpositive]
    omega
  rcases Nat.lt_or_eq_of_le hquotient with hbeyond | hequal
  · exact hbeyond.trans_le (div_le_roundedQuotient numerator denominator)
  · have hremainder := Nat.div_add_mod' numerator denominator
    rw [← hequal] at hremainder
    rw [roundedQuotient, ← hequal, if_pos (by omega)]

/-- Dividing a number by its spacing leaves 53 binary digits if it has as many. -/
theorem le_mul_spacing_of_eq_pow {units limit bits : Nat} (hlimit : limit = Nat.pow 2 bits)
    (hpositive : 0 < units) (hbits : bits ≤ units.log2) (hmany : 52 ≤ units.log2) :
    limit ≤ 2 ^ 52 * spacing units ∧ 2 ^ 52 ≤ units / spacing units := by
  have hleading : 2 ^ 52 * spacing units = 2 ^ units.log2 := by
    rw [spacing, Nat.pow_eq, ← Nat.pow_add, Nat.add_sub_cancel' hmany]
  constructor
  · rw [hleading, hlimit]
    exact Nat.pow_le_pow_right (by omega) hbits
  · have hspacing : 0 < spacing units := Nat.two_pow_pos _
    rw [Nat.le_div_iff_mul_le hspacing, hleading]
    exact Nat.log2_self_le (Nat.ne_of_gt hpositive)

/-- A quotient that has reached the middle between the greatest number and the limit is rounded
to the limit or beyond. -/
theorem unitsLimit_le_roundedUnits {numerator denominator : Nat} (hpositive : 0 < denominator)
    (hreached : (2 ^ 54 - 1) * (denominator * halfTopSpacing) ≤ numerator) :
    unitsLimit ≤ roundedUnits numerator denominator := by
  obtain ⟨-, -, hhalf, hlimit, -⟩ := halfTopSpacing_powers
  have hquotient : (2 ^ 54 - 1) * halfTopSpacing ≤ numerator / denominator := by
    rw [Nat.le_div_iff_mul_le hpositive, Nat.mul_assoc, Nat.mul_comm halfTopSpacing]
    exact hreached
  have hspacing := halfTopSpacing_pos
  have hnonzero : 0 < numerator / denominator := by omega
  rw [roundedUnits]
  rcases Nat.lt_or_ge (numerator / denominator).log2 2098 with hlog | hlog
  · have hlog : (numerator / denominator).log2 = 2097 := by
      have hbelow := mt (log2_lt_iff_of_eq_pow hhalf hnonzero).mp (by omega)
      omega
    rw [spacing_of_log2_eq hlog]
    have hrounded : 2 * (2 ^ 52 - 1) + 2 ≤
        roundedQuotient numerator (denominator * (2 * halfTopSpacing)) := by
      apply le_roundedQuotient_of_le (Nat.mul_pos hpositive (by omega))
      rw [Nat.mul_left_comm denominator]
      omega
    calc unitsLimit
        = (2 * (2 ^ 52 - 1) + 2) * (2 * halfTopSpacing) := by
          rw [unitsLimit_eq]
          omega
      _ ≤ _ := Nat.mul_le_mul_right _ hrounded
  · -- the quotient itself has reached the limit, and rounding keeps its leading digits
    obtain ⟨hreaches, hdigits⟩ := le_mul_spacing_of_eq_pow hlimit hnonzero hlog (by omega)
    rw [Nat.div_div_eq_div_mul] at hdigits
    calc unitsLimit
        ≤ 2 ^ 52 * spacing (numerator / denominator) := hreaches
      _ ≤ _ := Nat.mul_le_mul_right _ (hdigits.trans (div_le_roundedQuotient _ _))

theorem isFinite_ofQuotient_iff {negative : Bool} {numerator denominator : Nat}
    (hpositive : 0 < denominator) :
    (ofQuotient negative numerator denominator).isFinite = true ↔
      numerator < (2 ^ 54 - 1) * (denominator * halfTopSpacing) := by
  constructor
  · intro hfinite
    by_contra hreached
    have hlimit := unitsLimit_le_roundedUnits hpositive (Nat.not_lt.mp hreached)
    rw [ofQuotient, dif_neg (Nat.not_lt.mpr hlimit)] at hfinite
    exact absurd hfinite Bool.false_ne_true
  · intro hbelow
    rw [ofQuotient, dif_pos (roundedUnits_lt_unitsLimit hbelow)]
    rfl

/-! ## Adding a half -/

/-- No number exceeds the greatest one. -/
theorem units_le_of_spacing_dvd {units : Nat} (hprecise : spacing units ∣ units)
    (hbounded : units < unitsLimit) : units ≤ (2 ^ 54 - 2) * halfTopSpacing := by
  rcases Nat.lt_or_eq_of_le (log2_le_of_lt_unitsLimit hbounded) with hlog | hlog
  · rcases Nat.eq_zero_or_pos units with rfl | hpositive
    · exact Nat.zero_le _
    · obtain ⟨-, -, hhalf, -⟩ := halfTopSpacing_powers
      have hless := (log2_lt_iff_of_eq_pow hhalf hpositive).mp hlog
      omega
  · obtain ⟨digits, hdigits⟩ := hprecise
    rw [spacing_of_log2_eq hlog] at hdigits
    rw [unitsLimit_eq] at hbounded
    have hfew : digits < 2 ^ 53 := by
      by_contra hmany
      have hmany := Nat.mul_le_mul_left (2 * halfTopSpacing) (Nat.not_lt.mp hmany)
      omega
    have hmost := Nat.mul_le_mul_left (2 * halfTopSpacing) (Nat.le_sub_one_of_lt hfew)
    omega

theorem exists_half_eq_finite : ∃ units precise bounded,
    half = .finite false units precise bounded ∧ units < halfTopSpacing := by
  have hsmall : roundedUnits unitsPerOne 2 < halfTopSpacing := by decide +kernel
  have hbounded : roundedUnits unitsPerOne 2 < unitsLimit := by
    rw [unitsLimit_eq]
    omega
  have hhalf : half = .finite false (roundedUnits unitsPerOne 2)
      (spacing_dvd_roundedUnits unitsPerOne 2) hbounded := by
    rw [half, ofQuotient, dif_pos hbounded]
  exact ⟨_, _, _, hhalf, hsmall⟩

/-- A number does not become infinite by a half more. -/
theorem isFinite_add_half {number : Binary64} (hfinite : number.isFinite = true) :
    (number + half).isFinite = true := by
  cases number with
  | infinite negative => exact absurd hfinite Bool.false_ne_true
  | nan => exact absurd hfinite Bool.false_ne_true
  | finite negative units precise bounded =>
      obtain ⟨halfUnits, halfPrecise, halfBounded, hhalf, hsmall⟩ := exists_half_eq_finite
      have hgreatest := units_le_of_spacing_dvd precise bounded
      have hsum : (signedUnits negative units + signedUnits false halfUnits).natAbs ≤
          units + halfUnits := by
        cases negative <;> simp only [signedUnits, Bool.false_eq_true, if_false, if_true] <;> omega
      rw [hhalf]
      change (add _ _).isFinite = true
      rw [add]
      rw [isFinite_ofQuotient_iff Nat.one_pos, Nat.one_mul]
      omega

theorem not_isFinite_add_half {number : Binary64} (hnan : number ≠ nan)
    (hinfinite : number.isFinite = false) : (number + half).floor = .error .infinite := by
  obtain ⟨halfUnits, halfPrecise, halfBounded, hhalf, -⟩ := exists_half_eq_finite
  rw [hhalf]
  cases number with
  | finite negative units precise bounded => exact absurd hinfinite.symm Bool.false_ne_true
  | nan => exact absurd rfl hnan
  | infinite negative => rfl

/-! ## Products -/

/-- The size of a finite number in units. -/
def units : Binary64 → Nat
  | finite _ units _ _ => units
  | _ => 0

theorem ofQuotient_ne_nan (negative : Bool) (numerator denominator : Nat) :
    ofQuotient negative numerator denominator ≠ nan := by
  rw [ofQuotient]
  split <;> exact fun h => nomatch h

theorem exists_mul_eq_ofQuotient {number number' : Binary64} (hfinite : number.isFinite = true)
    (hfinite' : number'.isFinite = true) :
    ∃ negative, number * number' =
      ofQuotient negative (number.units * number'.units) unitsPerOne := by
  cases number with
  | infinite negative => exact absurd hfinite Bool.false_ne_true
  | nan => exact absurd hfinite Bool.false_ne_true
  | finite negative units precise bounded =>
      cases number' with
      | infinite negative' => exact absurd hfinite' Bool.false_ne_true
      | nan => exact absurd hfinite' Bool.false_ne_true
      | finite negative' units' precise' bounded' =>
          refine ⟨negative ^^ negative', ?_⟩
          change mul _ _ = _
          rw [mul]
          rfl

theorem exists_floor_eq_ok {number : Binary64} (hfinite : number.isFinite = true) :
    ∃ integer, number.floor = .ok integer := by
  cases number with
  | finite => exact ⟨_, rfl⟩
  | infinite negative => exact absurd hfinite Bool.false_ne_true
  | nan => exact absurd hfinite Bool.false_ne_true

end Binary64

namespace Ratio

/-! ## Clause counts -/

variable {ratio : Binary64}

/-- The product with the usual number of letters has reached the middle between the greatest
number and the limit. -/
def TooLarge (ratio : Binary64) : Prop :=
  (2 ^ 54 - 1) * Binary64.halfTopSpacing ≤ usualLetters * ratio.units

instance : DecidablePred TooLarge := fun ratio =>
  inferInstanceAs (Decidable ((2 ^ 54 - 1) * Binary64.halfTopSpacing ≤ usualLetters * ratio.units))

theorem clauseCount_eq_map_floor {letters : Int} {factor : Binary64}
    (hletters : Binary64.ofInt letters = .ok factor) :
    clauseCount ratio letters = (ratio * factor + Binary64.half).floor.map (max 1) := by
  rw [clauseCount, hletters]
  change (ratio * factor + Binary64.half).floor >>= (fun count => pure (max 1 count)) = _
  cases (ratio * factor + Binary64.half).floor with
  | error fault => rfl
  | ok count => rfl

theorem exists_ofInt_usualLetters : ∃ letters, Binary64.ofInt usualLetters = .ok letters ∧
    letters.isFinite = true ∧ letters.units = usualLetters * Binary64.unitsPerOne := by
  have hletters : (Binary64.ofInt usualLetters).toOption.any (fun letters =>
      letters.isFinite && letters.units == usualLetters * Binary64.unitsPerOne) = true := by
    decide +kernel
  obtain ⟨letters, hread, hunits⟩ := Except.toOption_any_eq_true_iff.mp hletters
  rw [Bool.and_eq_true, beq_iff_eq] at hunits
  exact ⟨letters, hread, hunits⟩

theorem scaled_lt_iff {scale : Nat} (hscale : 0 < scale) (size letters bound factor : Nat) :
    size * (letters * scale) < bound * (scale * factor) ↔ ¬ bound * factor ≤ letters * size := by
  have hleft : size * (letters * scale) = scale * (letters * size) := by ring
  rw [hleft, Nat.mul_left_comm bound, Nat.mul_lt_mul_left hscale, Nat.not_le]

/-- The product is rounded to a finite number as long as it is not that large. -/
theorem exists_product (hratio : ratio.isFinite = true) :
    ∃ letters, Binary64.ofInt usualLetters = .ok letters ∧ ratio * letters ≠ .nan ∧
      ((ratio * letters).isFinite = true ↔ ¬ TooLarge ratio) := by
  obtain ⟨letters, hletters, hfinite, hunits⟩ := exists_ofInt_usualLetters
  obtain ⟨negative, hproduct⟩ := Binary64.exists_mul_eq_ofQuotient hratio hfinite
  have hpositive : 0 < Binary64.unitsPerOne := by
    unfold Binary64.unitsPerOne
    apply Nat.two_pow_pos
  refine ⟨letters, hletters, ?_, ?_⟩
  · rw [hproduct]
    exact Binary64.ofQuotient_ne_nan _ _ _
  · rw [hproduct, Binary64.isFinite_ofQuotient_iff hpositive, hunits, TooLarge]
    exact scaled_lt_iff hpositive _ _ _ _

theorem clauseCount_of_tooLarge (hratio : ratio.isFinite = true) (hlarge : TooLarge ratio) :
    clauseCount ratio usualLetters = .error .infinite := by
  obtain ⟨letters, hletters, hnan, hfinite⟩ := exists_product hratio
  have hinfinite : (ratio * letters).isFinite = false := by
    rw [Bool.eq_false_iff]
    exact fun hproduct => hfinite.mp hproduct hlarge
  rw [clauseCount_eq_map_floor hletters, Binary64.not_isFinite_add_half hnan hinfinite]
  rfl

theorem exists_clauseCount_of_not_tooLarge (hratio : ratio.isFinite = true)
    (hcounted : ¬ TooLarge ratio) : ∃ count, clauseCount ratio usualLetters = .ok count := by
  obtain ⟨letters, hletters, -, hfinite⟩ := exists_product hratio
  obtain ⟨count, hcount⟩ :=
    Binary64.exists_floor_eq_ok (Binary64.isFinite_add_half (hfinite.mpr hcounted))
  refine ⟨max 1 count, ?_⟩
  rw [clauseCount_eq_map_floor hletters, hcount]
  rfl

end Ratio

end Clausal
