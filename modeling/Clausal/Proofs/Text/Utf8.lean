import Clausal.Text.Utf8
import Mathlib.Tactic.SplitIfs

/-!
# Texts survive their bytes

The bytes of a text are read as that text again (`decode_encode`), whatever characters it has.

A character has one to four bytes.  The first tells how many, and each of the others carries
six bits of the code point.  Reading is strict, so for each of the four forms it has to be
seen that no byte is refused.  That is immediate for all bytes but the second: its range is
narrower after four of the first bytes, which are those of the shorter forms, of the
surrogates and of what is beyond the last code point.  No character is any of these.
-/

namespace Clausal.Text.Utf8

/-! ## Bytes by their numbers -/

/-- The byte that continues a character with the last six bits of a number. -/
def continuation (value : Nat) : UInt8 := UInt8.ofNat (value % 64 + 0x80)

theorem toNat_continuation (value : Nat) : (continuation value).toNat = value % 64 + 0x80 :=
  UInt8.toNat_ofNat_of_lt' (show value % 64 + 0x80 < 256 by omega)

theorem isContinuation_continuation (value : Nat) : isContinuation (continuation value) = true := by
  simp only [isContinuation, Bool.and_eq_true, decide_eq_true_eq, UInt8.le_iff_toNat_le,
    UInt8.lt_iff_toNat_lt, toNat_continuation, UInt8.reduceToNat]
  omega

theorem payload_continuation (value : Nat) : payload (continuation value) = value % 64 := by
  rw [payload, toNat_continuation]
  omega

variable {position lead value second third fourth : Nat} {rest : List UInt8}

/-- After four first bytes the range of the second one is narrower. -/
theorem isSecond_continuation (hlead : lead < 256) (hshort : lead = 0xe0 → 0x20 ≤ value % 64)
    (hsurrogate : lead = 0xed → value % 64 < 0x20) (hshorter : lead = 0xf0 → 0x10 ≤ value % 64)
    (hlast : lead = 0xf4 → value % 64 < 0x10) :
    isSecond (UInt8.ofNat lead) (continuation value) = true := by
  have hfirst : (UInt8.ofNat lead).toNat = lead := UInt8.toNat_ofNat_of_lt' hlead
  rw [isSecond, isContinuation_continuation, Bool.true_and]
  simp only [← UInt8.toNat_inj, UInt8.le_iff_toNat_le, UInt8.lt_iff_toNat_lt, hfirst,
    toNat_continuation, UInt8.reduceToNat]
  split_ifs <;> simp <;> omega

/-- A form of several bytes does not begin with a byte that stands alone, nor with one that is
refused. -/
theorem not_refused_of_lead (hlower : 0xc2 ≤ lead) (hupper : lead ≤ 0xf4) :
    ¬ UInt8.ofNat lead < 0x80 ∧ ¬ (UInt8.ofNat lead < 0xc2 ∨ 0xf4 < UInt8.ofNat lead) := by
  have hfirst : (UInt8.ofNat lead).toNat = lead :=
    UInt8.toNat_ofNat_of_lt' (show lead < 256 by omega)
  simp only [UInt8.lt_iff_toNat_lt, hfirst, UInt8.reduceToNat]
  omega

/-! ## The four forms -/

theorem decodeFrom_one (hvalue : value < 0x80) :
    decodeFrom position (UInt8.ofNat value :: rest) =
      (Char.ofNat value :: ·) <$> decodeFrom (position + 1) rest := by
  have hfirst : (UInt8.ofNat value).toNat = value :=
    UInt8.toNat_ofNat_of_lt' (show value < 256 by omega)
  have halone : UInt8.ofNat value < 0x80 := by
    rw [UInt8.lt_iff_toNat_lt, hfirst]
    exact hvalue
  refine (decodeFrom.eq_def _ _).trans ?_
  simp only [if_pos halone, hfirst]

theorem decodeFrom_two (hlower : 0xc2 ≤ lead) (hupper : lead < 0xe0) :
    decodeFrom position (UInt8.ofNat lead :: continuation second :: rest) =
      (Char.ofNat (lead % 32 * 64 + second % 64) :: ·) <$> decodeFrom (position + 2) rest := by
  obtain ⟨halone, hrefused⟩ := not_refused_of_lead hlower (by omega)
  have hfirst : (UInt8.ofNat lead).toNat = lead :=
    UInt8.toNat_ofNat_of_lt' (show lead < 256 by omega)
  have hsecond : isSecond (UInt8.ofNat lead) (continuation second) = true :=
    isSecond_continuation (by omega) (by omega) (by omega) (by omega) (by omega)
  have htwo : UInt8.ofNat lead < 0xe0 := by
    rw [UInt8.lt_iff_toNat_lt, hfirst]
    exact hupper
  refine (decodeFrom.eq_def _ _).trans ?_
  simp only [halone, hrefused, hsecond, htwo, if_true, if_false, Bool.not_true,
    Bool.false_eq_true, hfirst, payload_continuation]

theorem decodeFrom_three (hlower : 0xe0 ≤ lead) (hupper : lead < 0xf0)
    (hsecond : isSecond (UInt8.ofNat lead) (continuation second) = true) :
    decodeFrom position (UInt8.ofNat lead :: continuation second :: continuation third :: rest) =
      (Char.ofNat ((lead % 16 * 64 + second % 64) * 64 + third % 64) :: ·) <$>
        decodeFrom (position + 3) rest := by
  obtain ⟨halone, hrefused⟩ := not_refused_of_lead (show 0xc2 ≤ lead by omega) (by omega)
  have hfirst : (UInt8.ofNat lead).toNat = lead :=
    UInt8.toNat_ofNat_of_lt' (show lead < 256 by omega)
  have htwo : ¬ UInt8.ofNat lead < 0xe0 := by
    rw [UInt8.lt_iff_toNat_lt, hfirst]
    exact Nat.not_lt.mpr hlower
  have hthree : UInt8.ofNat lead < 0xf0 := by
    rw [UInt8.lt_iff_toNat_lt, hfirst]
    exact hupper
  refine (decodeFrom.eq_def _ _).trans ?_
  simp only [halone, hrefused, hsecond, isContinuation_continuation, htwo, hthree, if_true,
    if_false, Bool.not_true, Bool.false_eq_true, hfirst, payload_continuation]

theorem decodeFrom_four (hlower : 0xf0 ≤ lead) (hupper : lead ≤ 0xf4)
    (hsecond : isSecond (UInt8.ofNat lead) (continuation second) = true) :
    decodeFrom position (UInt8.ofNat lead :: continuation second :: continuation third ::
        continuation fourth :: rest) =
      (Char.ofNat (((lead % 8 * 64 + second % 64) * 64 + third % 64) * 64 + fourth % 64) :: ·) <$>
        decodeFrom (position + 4) rest := by
  obtain ⟨halone, hrefused⟩ := not_refused_of_lead (show 0xc2 ≤ lead by omega) hupper
  have hfirst : (UInt8.ofNat lead).toNat = lead :=
    UInt8.toNat_ofNat_of_lt' (show lead < 256 by omega)
  have hfour : ¬ UInt8.ofNat lead < 0xe0 ∧ ¬ UInt8.ofNat lead < 0xf0 := by
    simp only [UInt8.lt_iff_toNat_lt, hfirst, UInt8.reduceToNat]
    omega
  refine (decodeFrom.eq_def _ _).trans ?_
  simp only [halone, hrefused, hsecond, isContinuation_continuation, hfour.1, hfour.2, if_false,
    Bool.not_true, Bool.false_eq_true, hfirst, payload_continuation]

/-! ## Reading back -/

theorem utf8EncodeChar_eq (c : Char) :
    String.utf8EncodeChar c =
      if c.toNat ≤ 0x7f then [UInt8.ofNat c.toNat]
      else if c.toNat ≤ 0x7ff then
        [UInt8.ofNat (c.toNat / 64 % 32 + 0xc0), continuation c.toNat]
      else if c.toNat ≤ 0xffff then
        [UInt8.ofNat (c.toNat / 4096 % 16 + 0xe0), continuation (c.toNat / 64),
          continuation c.toNat]
      else
        [UInt8.ofNat (c.toNat / 262144 % 8 + 0xf0), continuation (c.toNat / 4096),
          continuation (c.toNat / 64), continuation c.toNat] := rfl

/-- A character is read from its bytes. -/
theorem decodeFrom_utf8EncodeChar_append (position : Nat) (c : Char) (rest : List UInt8) :
    decodeFrom position (String.utf8EncodeChar c ++ rest) =
      (c :: ·) <$> decodeFrom (position + (String.utf8EncodeChar c).length) rest := by
  have hvalid : c.toNat < 0xd800 ∨ 0xdfff < c.toNat ∧ c.toNat < 0x110000 := c.valid
  have hchar : ∀ found, found = c.toNat → Char.ofNat found = c := by
    rintro found rfl
    exact Char.ofNat_toNat c
  rw [utf8EncodeChar_eq]
  split_ifs
  · refine (decodeFrom_one (by omega)).trans ?_
    rw [hchar _ rfl]
    rfl
  · refine (decodeFrom_two (by omega) (by omega)).trans ?_
    rw [hchar _ (by omega)]
    rfl
  · have hsecond : isSecond (UInt8.ofNat (c.toNat / 4096 % 16 + 0xe0))
        (continuation (c.toNat / 64)) = true :=
      isSecond_continuation (by omega) (by omega) (by omega) (by omega) (by omega)
    refine (decodeFrom_three (by omega) (by omega) hsecond).trans ?_
    rw [hchar _ (by omega)]
    rfl
  · have hsecond : isSecond (UInt8.ofNat (c.toNat / 262144 % 8 + 0xf0))
        (continuation (c.toNat / 4096)) = true :=
      isSecond_continuation (by omega) (by omega) (by omega) (by omega) (by omega)
    refine (decodeFrom_four (by omega) (by omega) hsecond).trans ?_
    rw [hchar _ (by omega)]
    rfl

theorem decodeFrom_encode (position : Nat) (text : List Char) :
    decodeFrom position (encode text) = .ok text := by
  induction text generalizing position with
  | nil => rfl
  | cons c rest ih =>
      rw [encode, List.flatMap_cons, decodeFrom_utf8EncodeChar_append, ← encode, ih]
      rfl

/-- What is written is read. -/
theorem decode_encode (text : List Char) : decode (encode text) = .ok text :=
  decodeFrom_encode 0 text

end Clausal.Text.Utf8
