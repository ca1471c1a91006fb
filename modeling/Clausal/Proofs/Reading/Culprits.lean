import Clausal.Proofs.Reading.Slices

/-!
# The culprit of an unexpected literal

A text is refused for an unexpected literal because of a range of its tokens that stands where
a variable should: at a literal's place, or behind a `~` there.  By then every pair of parentheses
around the range has been taken away, so what is left is quoted without them, with all that
stands between its first token and its last: blanks, symbols outside the alphabet and the
parentheses inside of it.

The range is a part of the text wherever it was found (`hereditary_isInfix`), so what is quoted
is a part of the text, too, and scanned by itself it has the same tokens.
-/

namespace Clausal

namespace Reading

open Grouping Token

/-- An unexpected literal is quoted from a part of the refused range: from all of it, or from
what is left of what it negates. -/
theorem LiteralFault.exists_culprit {text : List Char} {enclosing range : List Token}
    {fault : ReadError} (hfault : LiteralFault text enclosing range fault)
    (hkind : fault.kind = .unexpectedLiteral) (hbalanced : Balanced range)
    (hstrip : strip? range = some range) :
    ∃ culprit, fault = .unexpectedLiteral (fragment text culprit) ∧ culprit <:+: range ∧
      culprit ≠ [] ∧ Balanced culprit ∧ strip? culprit = some culprit ∧ ¬ IsAtom culprit := by
  cases hfault with
  | empty | negatesNothing => simp [ReadError.kind] at hkind
  | @negatesOther negation rest inner hnot hinner hnonempty hatom =>
      have hrest : Balanced rest := hbalanced.of_cons (by simp [weight, hnot])
      have hwithin : inner <:+: negation :: rest :=
        (isInfix_of_wraps (wraps_of_strip?_eq_some hinner)).trans
          (List.suffix_cons negation rest).isInfix
      exact ⟨inner, rfl, hwithin, hnonempty, hrest.of_strip?_eq_some hinner,
        strip?_of_strip?_eq_some hinner, hatom⟩
  | @other first rest hnot hatom =>
      exact ⟨first :: rest, rfl, List.infix_rfl, List.cons_ne_nil first rest, hbalanced, hstrip,
        hatom⟩

/-! ## The main statement -/

/-- **What an unexpected literal quotes.**  In either mode, a text that is refused for an
unexpected literal has a range of consecutive tokens that is balanced, that nothing encloses and
that is no variable.  The part of the text that the range covers is quoted, in the fault and in
its wording; scanned by itself it has the tokens of the range, counted from where it begins. -/
theorem Mode.covers_of_unexpectedLiteral (mode : Mode) {text : String} {fault : ReadError}
    (hread : (mode.read text).result = .error fault) (hkind : fault.kind = .unexpectedLiteral) :
    ∃ quoted range, fault.fragment? = some quoted ∧
      fault.message = "Parse Error: unexpected literal '" ++ quoted ++ "'" ∧
      range ≠ [] ∧ range <:+: scan text ∧ Balanced range ∧ strip? range = some range ∧
      ¬ IsAtom range ∧ Covers text.toList range quoted.toList := by
  have hbalanced := Mode.balanced_of_kind_ne hread (by simp [hkind])
  obtain ⟨enclosing, range, hrefused⟩ := (hereditary_isInfix text.toList).exists_refusedAt mode
    ⟨hbalanced, List.infix_rfl⟩ hread
  obtain ⟨hrange, hwithin⟩ := hrefused.holds_range
  obtain ⟨part, -, hpart⟩ := hrefused.isOperandIn
  obtain ⟨culprit, rfl, hinRange, hnonempty, hculprit, hstrip, hatom⟩ :=
    hrefused.literalFault.exists_culprit hkind hrange (strip?_of_strip?_eq_some hpart)
  have hinText : culprit <:+: scan text := hinRange.trans hwithin
  refine ⟨fragment text.toList culprit, culprit, rfl, rfl, hnonempty, hinText, hculprit, hstrip,
    hatom, ?_⟩
  rw [fragment, String.toList_ofList]
  exact covers_slice hinText hnonempty

/-- A symbol outside the alphabet, blanks and two pairs of parentheses behind a `~`. -/
theorem Mode.covers_of_unexpectedLiteral_negated :
    (Mode.clausal.read "A ^ (~((é \t(B))) v C)").result = .error (.unexpectedLiteral "é \t(B)") ∧
      ∃ range, range <:+: scan "A ^ (~((é \t(B))) v C)" ∧ strip? range = some range ∧
        Covers "A ^ (~((é \t(B))) v C)".toList range "é \t(B)".toList := by
  have hread : (Mode.clausal.read "A ^ (~((é \t(B))) v C)").result =
      .error (.unexpectedLiteral "é \t(B)") := by decide +kernel
  obtain ⟨quoted, range, hquoted, -, -, hwithin, -, hstrip, -, hcovers⟩ :=
    Mode.clausal.covers_of_unexpectedLiteral hread rfl
  obtain rfl : "é \t(B)" = quoted := Option.some.inj hquoted
  exact ⟨hread, range, hwithin, hstrip, hcovers⟩

end Reading

end Clausal
