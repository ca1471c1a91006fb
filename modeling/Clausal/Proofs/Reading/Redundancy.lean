import Clausal.Proofs.Grouping.Padding
import Clausal.Proofs.Reading.Agreement
import Clausal.Proofs.Reading.Simulation

/-!
# Redundant parentheses are neutral

A text and the same text with a pair of parentheses more, at a place where it is redundant,
are read alike in both modes: as the same sentence, or both with a fault of one family.  The
ranges of the two are padded ones, and these are a simulation (`simulation_padded`); what is
left to show is that padded ranges are alike as literals.

Padded ranges that nothing encloses are the same, or both of them are no variable
(`eq_or_not_isAtom_of_padded`).  That settles a literal without a negation and, once the pairs
after it are taken away, one with a negation.
-/

namespace Clausal

namespace Reading

open Grouping Token

variable {text text' : List Char} {tokens tokens' context context' : List Token}

/-! ## Literals -/

theorem not_isAtom_of_two_le_length (hlength : 2 ≤ tokens.length) : ¬ IsAtom tokens := by
  rintro ⟨token, rfl, -⟩
  simp at hlength

theorem not_isAtom_of_joins {joint : Connective} (hjoins : joins joint tokens = true) :
    ¬ IsAtom tokens := by
  rintro ⟨token, rfl, hvariable⟩
  rw [(closed_variable hvariable).not_joins] at hjoins
  exact absurd hjoins Bool.false_ne_true

/-- What becomes of a literal does not depend on what is quoted. -/
theorem outcome_literal_congr (text text' : List Char) (tokens context context' : List Token) :
    (literal text tokens context).outcome = (literal text' tokens context').outcome := by
  have hkeeps : KeepsSymbols id := fun _ => rfl
  have hmap := outcome_literal_map hkeeps text text' tokens context context'
  rwa [List.map_id] at hmap

theorem outcome_atom_of_not_isAtom (hatom : ¬ IsAtom tokens) (negated : Bool) :
    (atom text negated tokens).outcome = .error .unexpectedLiteral := by
  rcases tokens with _ | ⟨token, _ | ⟨second, rest⟩⟩
  · rfl
  · have hletter := mt token.isSome_letter?_iff.mp (mt isAtom_singleton_iff.mpr hatom)
    rw [Bool.not_eq_true, Option.isSome_eq_false_iff, Option.isNone_iff_eq_none] at hletter
    rw [atom, hletter]
    rfl
  · rfl

theorem outcome_literal_of_not_isAtom {first : Token} {rest : List Token}
    (hnot : first.kind ≠ .not) (hatom : ¬ IsAtom (first :: rest)) :
    (literal text (first :: rest) context).outcome = .error .unexpectedLiteral := by
  rw [literal, if_neg hnot]
  exact outcome_atom_of_not_isAtom hatom false

theorem outcome_negation_of_not_isAtom {negation : Token} {rest inner : List Token}
    (hnot : negation.kind = .not) (hstrip : strip? rest = some inner) (hnonempty : inner ≠ [])
    (hatom : ¬ IsAtom inner) :
    (literal text (negation :: rest) context).outcome = .error .unexpectedLiteral := by
  rw [literal_not hnot hstrip hnonempty]
  exact outcome_atom_of_not_isAtom hatom true

/-- A negation is read by what is left of its operand. -/
theorem outcome_negation_congr {negation : Token} {rest rest' : List Token}
    (hnot : negation.kind = .not) (hstrip : strip? rest = strip? rest') :
    (literal text (negation :: rest) context).outcome =
      (literal text' (negation :: rest') context').outcome := by
  rw [outcome_literal_congr text text' (negation :: rest) context context', literal, literal,
    if_pos hnot, if_pos hnot, strip, strip, hstrip]
  simp only [outcome_bind]
  congr 1
  funext inner
  cases inner <;> rfl

/-- What a connective joins is no literal, and nothing is missing in it. -/
theorem outcome_literal_of_joins {joint : Connective} (hbalanced : Balanced tokens)
    (hjoins : joins joint tokens = true) :
    (literal text tokens context).outcome = .error .unexpectedLiteral := by
  cases hread : (literal text tokens context).result with
  | ok found =>
      rw [not_joins_of_literal_eq_ok hbalanced hread] at hjoins
      exact absurd hjoins Bool.false_ne_true
  | error fault =>
      refine outcome_eq_error_iff.mpr ⟨fault, hread, ?_⟩
      cases literalFault_of_literal_eq_error hbalanced hread with
      | empty => exact absurd hjoins Bool.false_ne_true
      | negatesOther | other => rfl
      | @negatesNothing negation rest hnot hstrip =>
          have hweight : weight negation = 0 := by simp [weight, hnot]
          have hrest : joins joint rest = false := by
            by_contra hrest
            rw [Bool.not_eq_false] at hrest
            -- the operand would be left as it is, and it is not empty
            rw [(hbalanced.of_cons hweight).strip?_of_joins hrest, Option.some.injEq] at hstrip
            rw [hstrip] at hrest
            exact absurd hrest Bool.false_ne_true
          rw [joins_cons_eq_false hweight (by simp [hnot]) hrest] at hjoins
          exact absurd hjoins Bool.false_ne_true

/-! ## Padded ranges as literals -/

/-- Padded ranges that nothing encloses are the same, or both are more than a variable. -/
theorem eq_or_not_isAtom_of_padded (hpadded : Padded tokens tokens')
    (hbare : enclosure tokens' = .bare) :
    tokens = tokens' ∨ (tokens ≠ [] ∧ ¬ IsAtom tokens) ∧ tokens' ≠ [] ∧ ¬ IsAtom tokens' := by
  have hlong : ∀ {range : List Token}, 2 ≤ range.length → range ≠ [] ∧ ¬ IsAtom range := by
    intro range hlength
    exact ⟨List.length_pos_iff.mp (by omega), not_isAtom_of_two_le_length hlength⟩
  cases hpadded with
  | same => exact Or.inl rfl
  | whole hbalanced hpair => simp [hpair.enclosure_eq hbalanced] at hbare
  | group _ _ hpair hpair' _ =>
      have hlength := hpair.two_le_length
      have hlength' := hpair'.two_le_length
      exact Or.inr ⟨hlong (by simp; omega), hlong (by simp; omega)⟩
  | negated _ _ _ hpair _ =>
      have hlength := hpair.two_le_length
      exact Or.inr ⟨hlong (by simp; omega), hlong (by simp; omega)⟩
  | @operand front run grouped back hfront hlast hrun hpair hback hfirst =>
      obtain ⟨⟨joint, hjoins⟩, joint', hjoins'⟩ :=
        exists_joins_of_operand hfront hlast hrun.balanced hpair hfirst hbare
      exact Or.inr ⟨⟨ne_nil_of_joins hjoins, not_isAtom_of_joins hjoins⟩,
        ne_nil_of_joins hjoins', not_isAtom_of_joins hjoins'⟩

/-- After a negation padded ranges are read alike, and after anything else no range is. -/
private theorem outcome_literal_cons_of_padded {first : Token} {rest rest' : List Token}
    (hpadded : first.kind = .not → Padded rest rest') (hrest : rest ≠ []) (hrest' : rest' ≠ []) :
    (literal text (first :: rest) context).outcome =
      (literal text' (first :: rest') context').outcome := by
  by_cases hnot : first.kind = .not
  · obtain ⟨inner, inner', hstrip, hstrip', hinner⟩ := (hpadded hnot).exists_strip?
    have hbare := enclosure_of_strip?_eq_some hstrip'
    rcases eq_or_not_isAtom_of_padded hinner hbare with rfl | ⟨hleft, hright⟩
    · exact outcome_negation_congr hnot (hstrip.trans hstrip'.symm)
    · rw [outcome_negation_of_not_isAtom hnot hstrip hleft.1 hleft.2,
        outcome_negation_of_not_isAtom hnot hstrip' hright.1 hright.2]
  · have hlong : ∀ {range : List Token}, range ≠ [] → ¬ IsAtom (first :: range) := by
      intro range hrange
      apply not_isAtom_of_two_le_length
      rw [List.length_cons]
      exact Nat.succ_le_succ (List.length_pos_iff.mpr hrange)
    rw [outcome_literal_of_not_isAtom hnot (hlong hrest),
      outcome_literal_of_not_isAtom hnot (hlong hrest')]

/-- A literal does not begin with a parenthesis. -/
private theorem outcome_literal_of_encloses {inner grouped : List Token}
    (hpair : Encloses inner grouped) (rest : List Token) :
    (literal text (grouped ++ rest) context).outcome = .error .unexpectedLiteral := by
  obtain ⟨hopening, hclosing⟩ := hpair
  apply outcome_literal_of_not_isAtom (by simp [hopening])
  exact not_isAtom_of_two_le_length (by simp; omega)

/-- A variable that is negated may be in parentheses, if nothing follows it. -/
private theorem outcome_negated {negation letter : Token} {grouped back : List Token}
    (hnot : negation.kind = .not) (hvariable : letter.kind = .variable)
    (hpair : Encloses [letter] grouped) (hback : Balanced back) :
    (literal text (negation :: letter :: back) context).outcome =
      (literal text' (negation :: (grouped ++ back)) context').outcome := by
  have hletter := (closed_variable hvariable).balanced
  have hgrouped := (hpair.closed hletter).balanced
  rcases eq_or_ne back [] with rfl | hnonempty
  · apply outcome_negation_congr hnot
    rw [List.append_nil, hpair.strip?_eq hletter]
  · have hbare : enclosure (letter :: back) = .bare :=
      enclosure_of_kind_ne_opening (by simp [hvariable]) back
    have hbare' := hgrouped.enclosure_append hpair.ne_nil hnonempty
    have hlength := List.length_pos_iff.mpr hnonempty
    have hlength' := hpair.two_le_length
    rw [outcome_negation_of_not_isAtom hnot (strip?_of_bare hbare) (List.cons_ne_nil _ _)
        (not_isAtom_of_two_le_length (by simp; omega)),
      outcome_negation_of_not_isAtom hnot (strip?_of_bare hbare')
        (List.append_ne_nil_of_left_ne_nil hpair.ne_nil back)
        (not_isAtom_of_two_le_length (by simp; omega))]

theorem outcome_literal_of_padded (hpadded : Padded tokens tokens')
    (hbare : enclosure tokens' = .bare) :
    (literal text tokens context).outcome = (literal text' tokens' context').outcome := by
  cases hpadded with
  | same => exact outcome_literal_congr text text' tokens context context'
  | whole hbalanced hpair => simp [hpair.enclosure_eq hbalanced] at hbare
  | @group front inner inner' grouped grouped' back hfront hinner hpair hpair' hback =>
      cases front with
      | nil =>
          rw [List.nil_append, List.nil_append, outcome_literal_of_encloses hpair,
            outcome_literal_of_encloses hpair']
      | cons first front =>
          have hlength := hpair.two_le_length
          have hlength' := hpair'.two_le_length
          refine outcome_literal_cons_of_padded (fun hnot => ?_)
            (List.length_pos_iff.mp (by simp; omega)) (List.length_pos_iff.mp (by simp; omega))
          exact .group (hfront.of_cons (by simp [weight, hnot])) hinner hpair hpair' hback
  | @negated front grouped back negation letter hfront hnot hvariable hpair hback =>
      cases front with
      | nil => exact outcome_negated hnot hvariable hpair hback
      | cons first front =>
          refine outcome_literal_cons_of_padded (fun hfirst => ?_) (by simp) (by simp)
          exact .negated (hfront.of_cons (by simp [weight, hfirst])) hnot hvariable hpair hback
  | @operand front run grouped back hfront hlast hrun hpair hback hfirst =>
      obtain ⟨⟨joint, hjoins⟩, joint', hjoins'⟩ :=
        exists_joins_of_operand hfront hlast hrun.balanced hpair hfirst hbare
      have hbalanced := hfront.append (hrun.balanced.append hback)
      have hbalanced' := hfront.append ((hpair.closed hrun.balanced).balanced.append hback)
      rw [outcome_literal_of_joins hbalanced hjoins, outcome_literal_of_joins hbalanced' hjoins']

/-! ## Padded ranges -/

/-- Padding is kept by every step of a reading, up to the quoted part of a fault. -/
theorem simulation_padded (text text' : List Char) :
    Simulation text text' (fun fault fault' => fault.kind = fault'.kind) Padded where
  strip hpadded := hpadded.exists_strip?
  operands hpadded _ hbare joint := hpadded.forall₂_allOperands hbare joint
  literal hpadded _ hbare _ := endAlike_iff_outcome_eq.mpr (outcome_literal_of_padded hpadded hbare)

theorem Mode.outcome_readTokens_of_padded (mode : Mode) (hpadded : Padded tokens tokens') :
    (mode.readTokens text tokens).outcome = (mode.readTokens text' tokens').outcome :=
  endAlike_iff_outcome_eq.mp ((simulation_padded text text').endAlike_readTokens mode hpadded)

/-- Conjuncts that are padded one by one are enough, where `^` joins the range. -/
theorem Mode.outcome_readTokens_of_conjuncts (mode : Mode) (hbalanced : Balanced tokens)
    (hbalanced' : Balanced tokens') (hjoins : joins .and tokens = true)
    (hjoins' : joins .and tokens' = true)
    (hparts : List.Forall₂ Padded (allOperands .and tokens) (allOperands .and tokens')) :
    (mode.readTokens text tokens).outcome = (mode.readTokens text' tokens').outcome := by
  have hstrip := hbalanced.strip?_of_joins hjoins
  have hstrip' := hbalanced'.strip?_of_joins hjoins'
  have hsimulation := simulation_padded text text'
  rw [← endAlike_iff_outcome_eq]
  cases mode with
  | direct =>
      rw [readTokens, readTokens, atLevel_of_jointAt_eq_some hstrip (jointAt_of_joins hjoins),
        atLevel_of_jointAt_eq_some hstrip' (jointAt_of_joins hjoins')]
      refine EndAlike.joined (hparts.imp fun part part' hpart => ?_)
      -- the contexts are not padded, but they do not count for the outcome
      have halike := hsimulation.endAlike_atLevel Connective.and.other hpart hpart
      rw [endAlike_iff_outcome_eq, outcome_atLevel, outcome_atLevel] at halike ⊢
      exact halike
  | clausal =>
      rw [readTokens, readTokens, clauses_eq, clauses_eq, strip_eq_pure hstrip,
        strip_eq_pure hstrip', pure_bind, pure_bind]
      exact EndAlike.joined (hparts.imp fun part part' hpart => hsimulation.endAlike_clause hpart)

/-! ## The main statement -/

theorem balanced_map_unplace_iff : Balanced (tokens.map unplace) ↔ Balanced tokens :=
  balanced_congr (by rw [map_unplace, map_symbol_unplaced])

theorem map_unplace_scan_append (first second : String) :
    (scan (first ++ second)).map unplace =
      (scan first).map unplace ++ (scan second).map unplace := by
  rw [map_unplace, map_unplace, map_unplace, map_symbol_scan, map_symbol_scan, map_symbol_scan,
    String.toList_append, symbols_append, unplaced_append]

theorem map_unplace_scan_enclosed (before run after : String) :
    (scan (before ++ "(" ++ run ++ ")" ++ after)).map unplace =
      (scan before).map unplace ++
        (⟨'(', 0⟩ :: ((scan run).map unplace ++ [⟨')', 0⟩]) ++ (scan after).map unplace) := by
  have hopening : (scan "(").map unplace = [⟨'(', 0⟩] := rfl
  have hclosing : (scan ")").map unplace = [⟨')', 0⟩] := rfl
  simp only [map_unplace_scan_append, hopening, hclosing]
  simp

/-- **Redundant parentheses are neutral.**  A balanced text is read alike with a pair of
parentheses more, in either mode, if the pair is around a group, around the whole text, around
a conjunct of it, around all that stands between two connectives of a group at any depth, or
around a variable that is negated.  Alike is: as the same sentence, or both refused with a
fault of one family. -/
theorem Mode.outcome_read_enclosed (mode : Mode) {before run after : String}
    (hbalanced : Balanced (scan (before ++ run ++ after)))
    (hredundant : Redundant (scan before) (scan run) (scan after)) :
    (mode.read (before ++ "(" ++ run ++ ")" ++ after)).outcome =
      (mode.read (before ++ run ++ after)).outcome := by
  have hplace := hredundant.map keepsSymbols_unplace
  have hrange := balanced_map_unplace_iff.mpr hbalanced
  rw [map_unplace_scan_append, map_unplace_scan_append, List.append_assoc] at hrange
  have hrun := hplace.balanced_run hrange
  have hpair : Encloses ((scan run).map unplace)
      (⟨'(', 0⟩ :: ((scan run).map unplace ++ [⟨')', 0⟩])) := .pair rfl rfl
  have hbalanced' : Balanced (scan (before ++ "(" ++ run ++ ")" ++ after)) := by
    rw [← balanced_map_unplace_iff, map_unplace_scan_enclosed,
      balanced_append_iff (hpair.closed hrun).balanced]
    exact (balanced_append_iff hrun _ _).mp hrange
  have hrange' := balanced_map_unplace_iff.mpr hbalanced'
  rw [map_unplace_scan_enclosed] at hrange'
  rw [mode.outcome_read_of_balanced hbalanced', mode.outcome_read_of_balanced hbalanced,
    map_unplace_scan_enclosed, map_unplace_scan_append, map_unplace_scan_append, List.append_assoc]
  symm
  rcases hplace.padded_or_conjuncts hrange hpair with hpadded | ⟨hjoins, hjoins', hparts⟩
  · exact mode.outcome_readTokens_of_padded hpadded
  · exact mode.outcome_readTokens_of_conjuncts hrange hrange' hjoins hjoins' hparts

/-- A pair around `~C`, between `v` and `^` of one group: the text is read by one mode and
refused by the other. -/
theorem Mode.outcome_read_enclosed_operand :
    (Mode.direct.read "A ^ ((B v (~C) ^ D) v E)").outcome =
        (Mode.direct.read "A ^ ((B v ~C ^ D) v E)").outcome ∧
      (Mode.clausal.read "A ^ ((B v (~C) ^ D) v E)").outcome =
        (Mode.clausal.read "A ^ ((B v ~C ^ D) v E)").outcome := by
  have hbalanced : Balanced (scan ("A ^ ((B v " ++ "~C" ++ " ^ D) v E)")) :=
    imbalance_eq_none_iff.mp (by decide +kernel)
  have hredundant : Redundant (scan "A ^ ((B v ") (scan "~C") (scan " ^ D) v E)") := by
    have hlast : (scan "A ^ ((B v ").getLast? = some ⟨'v', 8⟩ := by decide +kernel
    have hfirst : (scan " ^ D) v E)").head? = some ⟨'^', 1⟩ := by decide +kernel
    apply Redundant.operand
    · intro token htoken
      rw [hlast] at htoken
      obtain rfl := Option.some.inj htoken
      exact Or.inr ⟨.or, rfl⟩
    · exact imbalance_eq_none_iff.mp (by decide +kernel)
    · intro joint
      apply joins_eq_false_iff_not_standsOutside.mp
      cases joint <;> decide +kernel
    · intro token htoken
      rw [hfirst] at htoken
      obtain rfl := Option.some.inj htoken
      exact Or.inr ⟨.and, rfl⟩
  have henclosed : "A ^ ((B v (~C) ^ D) v E)" =
      "A ^ ((B v " ++ "(" ++ "~C" ++ ")" ++ " ^ D) v E)" := by
    decide +kernel
  have htext : "A ^ ((B v ~C ^ D) v E)" = "A ^ ((B v " ++ "~C" ++ " ^ D) v E)" := by
    decide +kernel
  rw [henclosed, htext]
  exact ⟨Mode.direct.outcome_read_enclosed hbalanced hredundant,
    Mode.clausal.outcome_read_enclosed hbalanced hredundant⟩

end Reading

end Clausal
