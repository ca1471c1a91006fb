import Clausal.Proofs.Grouping.Division
import Clausal.Proofs.Grouping.Enclosure

/-!
# The parts of a range

A range is balanced if and only if its parts are (`balanced_iff_forall_parts`), and balanced parts
that no separator cuts make a division (`divides_of_balanced`).  With what holds of the divisions
of any range this gives the law of cutting and joining (`split_undoes_rejoin`).

The equations for `split` follow the shape of a balanced range: a token that is no
parenthesis separates or not, and a whole group is passed.
-/

namespace Clausal

namespace Grouping

variable {separates : Token.Kind → Bool}

/-! ## Cutting step by step -/

theorem split_cons_of_separates {token : Token} (hweight : weight token = 0)
    (hseparates : separates token.kind = true) (rest : List Token) :
    split separates (token :: rest) =
      ([], (split separates rest).1 :: (split separates rest).2) :=
  splitWithin_cons_of_cut ⟨hweight, rfl, hseparates⟩ rest

theorem split_cons_of_not_separates {token : Token} (hweight : weight token = 0)
    (hseparates : separates token.kind = false) (rest : List Token) :
    split separates (token :: rest) =
      (token :: (split separates rest).1, (split separates rest).2) := by
  have hcut : ¬ (weight token = 0 ∧ (0 : Int) = 0 ∧ separates token.kind = true) := by
    simp [hseparates]
  have hstep := splitWithin_cons_of_not_cut hcut rest
  rwa [hweight] at hstep

/-- Inside a group nothing separates. -/
theorem splitWithin_cons_of_pos (token : Token) {opened : Int} (hopened : 0 < opened)
    (rest : List Token) :
    splitWithin separates opened (token :: rest) =
      (token :: (splitWithin separates (opened + weight token) rest).1,
        (splitWithin separates (opened + weight token) rest).2) :=
  splitWithin_cons_of_not_cut (fun hcut => absurd hcut.2.1 (by omega)) rest

theorem splitWithin_append {inner : List Token} (hinner : Balanced inner) {opened : Int}
    (hopened : 0 < opened) (rest : List Token) :
    splitWithin separates opened (inner ++ rest) =
      (inner ++ (splitWithin separates opened rest).1, (splitWithin separates opened rest).2) := by
  induction hinner generalizing opened rest with
  | empty => rfl
  | single hweight _ ih =>
      rw [List.cons_append, splitWithin_cons_of_pos _ hopened, hweight, Int.add_zero, ih hopened]
      rfl
  | group hopening hclosing _ _ ihInner ihRest =>
      have hdeeper : 0 < opened + 1 := by omega
      rw [List.cons_append, splitWithin_cons_of_pos _ hopened, weight_of_opening hopening,
        List.append_assoc, ihInner hdeeper, List.cons_append, splitWithin_cons_of_pos _ hdeeper,
        weight_of_closing hclosing, Int.add_neg_cancel_right, ihRest hopened]
      simp

theorem split_group {opening closing : Token} {inner : List Token}
    (hopening : opening.kind = .opening) (hclosing : closing.kind = .closing)
    (hinner : Balanced inner) (rest : List Token) :
    split separates (opening :: (inner ++ closing :: rest)) =
      (opening :: (inner ++ closing :: (split separates rest).1), (split separates rest).2) := by
  have hfirst : splitWithin separates 0 (opening :: (inner ++ closing :: rest)) =
      (opening :: (splitWithin separates 1 (inner ++ closing :: rest)).1,
        (splitWithin separates 1 (inner ++ closing :: rest)).2) := by
    have hcut : ¬ (weight opening = 0 ∧ (0 : Int) = 0 ∧ separates opening.kind = true) := by
      simp [weight_of_opening hopening]
    have hstep := splitWithin_cons_of_not_cut hcut (inner ++ closing :: rest)
    rwa [weight_of_opening hopening] at hstep
  rw [split, hfirst, splitWithin_append hinner Int.one_pos,
    splitWithin_cons_of_pos _ Int.one_pos, weight_of_closing hclosing]
  rfl

/-- Nothing separates the ends of a group. -/
theorem split_enclose {opening closing : Token} {inner : List Token}
    (hopening : opening.kind = .opening) (hclosing : closing.kind = .closing)
    (hinner : Balanced inner) :
    split separates (opening :: (inner ++ [closing])) = (opening :: (inner ++ [closing]), []) :=
  split_group hopening hclosing hinner []

/-! ## The parts -/

/-- All parts of a range, in order. -/
def parts (separates : Token.Kind → Bool) (tokens : List Token) : List (List Token) :=
  (split separates tokens).1 :: (split separates tokens).2

theorem Balanced.of_mem_parts {tokens part : List Token} (hbalanced : Balanced tokens)
    (hpart : part ∈ parts separates tokens) : Balanced part := by
  induction hbalanced generalizing part with
  | empty =>
      rw [parts, split_nil, List.mem_singleton] at hpart
      exact hpart ▸ .empty
  | @single token rest hweight _ ih =>
      unfold parts at hpart ih
      cases hseparates : separates token.kind with
      | true =>
          rw [split_cons_of_separates hweight hseparates] at hpart
          rcases List.mem_cons.mp hpart with rfl | hpart
          · exact .empty
          · exact ih hpart
      | false =>
          rw [split_cons_of_not_separates hweight hseparates] at hpart
          rcases List.mem_cons.mp hpart with rfl | hpart
          · exact .single hweight (ih List.mem_cons_self)
          · exact ih (List.mem_cons_of_mem _ hpart)
  | group hopening hclosing hinner _ _ ih =>
      unfold parts at hpart ih
      rw [split_group hopening hclosing hinner] at hpart
      rcases List.mem_cons.mp hpart with rfl | hpart
      · exact .group hopening hclosing hinner (ih List.mem_cons_self)
      · exact ih (List.mem_cons_of_mem _ hpart)

/-- No part of any range has a separator outside every group. -/
theorem not_isCut_of_mem_parts {tokens part : List Token} (hpart : part ∈ parts separates tokens) :
    ¬ IsCut separates part := by
  obtain ⟨others, hdivides, hparts, -⟩ := exists_divides_split separates tokens
  rw [parts, ← hparts] at hpart
  exact hdivides.not_isCut part hpart

/-- What starts with a balanced range that nothing cuts is cut in the rest only. -/
theorem split_append {first : List Token} (hfirst : Balanced first)
    (huncut : split separates first = (first, [])) (rest : List Token) :
    split separates (first ++ rest) =
      (first ++ (split separates rest).1, (split separates rest).2) := by
  rw [split_append_of_not_isCut (split_eq_self_iff.mp huncut), hfirst.depth_eq_zero]
  rfl

/-- A balanced range that nothing cuts is the first part of what starts with it. -/
theorem split_append_separator {first : List Token} (hfirst : Balanced first)
    (huncut : split separates first = (first, [])) {separator : Token}
    (hweight : weight separator = 0) (hseparates : separates separator.kind = true)
    (rest : List Token) :
    split separates (first ++ separator :: rest) =
      (first, (split separates rest).1 :: (split separates rest).2) :=
  split_append_separator_of_depth (split_eq_self_iff.mp huncut) hfirst.depth_eq_zero
    ⟨hweight, hseparates⟩ rest

/-! ## Rejoining balanced parts -/

/-- Balanced parts that nothing cuts are a division, whatever the separators between them. -/
theorem divides_of_balanced {first : List Token} {others : List (Token × List Token)}
    (hparts : ∀ part ∈ first :: others.map Prod.snd, Balanced part ∧ ¬ IsCut separates part)
    (hseparators : ∀ other ∈ others, IsSeparator separates other.1) :
    Divides separates first others := by
  induction others generalizing first with
  | nil => exact .last (hparts first List.mem_cons_self).2
  | cons other others ih =>
      obtain ⟨separator, second⟩ := other
      obtain ⟨⟨hfirst, huncut⟩, hothers⟩ := List.forall_mem_cons.mp hparts
      rw [List.forall_mem_cons] at hseparators
      exact .cut huncut hfirst.depth_eq_zero hseparators.1 (ih hothers hseparators.2)

theorem Balanced.rejoin {first : List Token} {others : List (Token × List Token)}
    (hfirst : Balanced first) (hothers : ∀ other ∈ others, Balanced other.2)
    (hseparators : ∀ other ∈ others, weight other.1 = 0) :
    Balanced (Grouping.rejoin first others) := by
  induction others generalizing first with
  | nil => rwa [rejoin_nil]
  | cons other others ih =>
      obtain ⟨separator, second⟩ := other
      rw [List.forall_mem_cons] at hothers hseparators
      rw [rejoin_cons]
      exact hfirst.append (.single hseparators.1 (ih hothers.1 hothers.2 hseparators.2))

/-- A range is balanced if and only if its parts are. -/
theorem balanced_iff_forall_parts (separates : Token.Kind → Bool) {tokens : List Token} :
    Balanced tokens ↔ ∀ part ∈ parts separates tokens, Balanced part := by
  refine ⟨fun hbalanced part hpart => hbalanced.of_mem_parts hpart, fun hparts => ?_⟩
  obtain ⟨others, hdivides, hothers, hjoin⟩ := exists_divides_split separates tokens
  rw [parts, ← hothers, List.forall_mem_cons, List.forall_mem_map] at hparts
  rw [← hjoin]
  exact hparts.1.rejoin hparts.2 fun other hother => (hdivides.isSeparator other hother).1

/-- **Cutting undoes joining.**  The parts of any range, with the separators that it was cut at
between them again, are the range.  A range is balanced if and only if its parts are, and no part
has a separator outside every group.  And balanced parts without such a separator, empty ones
included, are the parts of what any separators join them to. -/
theorem split_undoes_rejoin (separates : Token.Kind → Bool) :
    (∀ tokens, ∃ others, Divides separates (split separates tokens).1 others ∧
      others.map Prod.snd = (split separates tokens).2 ∧
      rejoin (split separates tokens).1 others = tokens) ∧
    (∀ tokens, Balanced tokens ↔ ∀ part ∈ parts separates tokens,
      Balanced part ∧ ¬ IsCut separates part) ∧
    ∀ first others, (∀ part ∈ first :: others.map Prod.snd,
        Balanced part ∧ ¬ IsCut separates part) →
      (∀ other ∈ others, IsSeparator separates other.1) →
      parts separates (rejoin first others) = first :: others.map Prod.snd := by
  refine ⟨fun tokens => ?_, fun tokens => ?_, fun first others hparts hseparators => ?_⟩
  · exact exists_divides_split separates tokens
  · rw [balanced_iff_forall_parts separates]
    refine forall₂_congr fun part hpart => ?_
    exact (and_iff_left (not_isCut_of_mem_parts hpart)).symm
  · rw [parts, (divides_of_balanced hparts hseparators).split_rejoin]

/-- Separators at either end and next to each other stand beside empty parts, and one inside a
group is passed. -/
theorem split_undoes_rejoin_empty_parts :
    (∀ part ∈ [[], Token.scan "  A", [], Token.scan "        (B v C)", []],
      Balanced part ∧ ¬ IsCut (· = .connective .or) part) ∧
    parts (· = .connective .or) (Token.scan "v A v v (B v C) v") =
      [[], Token.scan "  A", [], Token.scan "        (B v C)", []] := by
  have hparts : ∀ part ∈ [[], Token.scan "  A", [], Token.scan "        (B v C)", []],
      Balanced part ∧ ¬ IsCut (· = .connective .or) part := by
    intro part hpart
    rw [← imbalance_eq_none_iff, ← split_eq_self_iff]
    revert part
    decide +kernel
  refine ⟨hparts, (split_undoes_rejoin _).2.2 [] [(⟨'v', 0⟩, Token.scan "  A"), (⟨'v', 4⟩, []),
    (⟨'v', 6⟩, Token.scan "        (B v C)"), (⟨'v', 16⟩, [])] hparts ?_⟩
  unfold IsSeparator
  decide +kernel

/-! ## The size of the parts -/

private theorem countP_add_length_le_rejoin {counts : Token → Bool} {first : List Token}
    {others : List (Token × List Token)} (hseparators : ∀ other ∈ others, counts other.1 = true)
    {part : List Token} (hpart : part ∈ first :: others.map Prod.snd) :
    part.countP counts + others.length ≤ (rejoin first others).countP counts := by
  induction others generalizing first part with
  | nil =>
      obtain rfl : part = first := by simpa using hpart
      simp
  | cons other others ih =>
      obtain ⟨separator, second⟩ := other
      rw [List.forall_mem_cons] at hseparators
      rw [rejoin_cons, List.countP_append, List.countP_cons_of_pos hseparators.1, List.length_cons]
      simp only [List.map_cons] at hpart
      rcases List.mem_cons.mp hpart with rfl | hpart
      · -- the bound on any part of the rest will do
        have hsecond : second ∈ second :: others.map Prod.snd := List.mem_cons_self
        have hrest := ih hseparators.2 hsecond
        omega
      · have hrest := ih hseparators.2 hpart
        omega

/-- A part holds none of the separators that the range is cut at. -/
theorem countP_add_length_le {counts : Token → Bool}
    (hcounts : ∀ token, separates token.kind = true → counts token = true)
    {tokens part : List Token}
    (hpart : part ∈ parts separates tokens) :
    part.countP counts + (split separates tokens).2.length ≤ tokens.countP counts := by
  obtain ⟨others, hothers, hseparators, hjoin⟩ := exists_rejoin_split separates tokens
  rw [parts, ← hothers] at hpart
  rw [← hothers, List.length_map, congrArg (List.countP counts) hjoin]
  exact countP_add_length_le_rejoin (fun other hother => hcounts _ (hseparators other hother)) hpart

/-! ## Operands

The operands of a connective are the parts between its tokens. -/

/-- All operands of a connective in a range, in order. -/
def allOperands (joint : Connective) (tokens : List Token) : List (List Token) :=
  (operands joint tokens).1 :: (operands joint tokens).2

theorem joins_eq_true_iff {joint : Connective} {tokens : List Token} :
    joins joint tokens = true ↔ (operands joint tokens).2 ≠ [] := by
  simp [joins]

theorem joins_eq_false_iff {joint : Connective} {tokens : List Token} :
    joins joint tokens = false ↔ (operands joint tokens).2 = [] := by
  simp [joins]

theorem ne_nil_of_joins {joint : Connective} {tokens : List Token}
    (hjoins : joins joint tokens = true) : tokens ≠ [] := by
  rintro rfl
  exact absurd hjoins Bool.false_ne_true

theorem operands_eq_self {joint : Connective} {tokens : List Token}
    (hjoins : joins joint tokens = false) : operands joint tokens = (tokens, []) :=
  split_eq_self (joins_eq_false_iff.mp hjoins)

theorem Balanced.of_mem_allOperands {joint : Connective} {tokens part : List Token}
    (hbalanced : Balanced tokens) (hpart : part ∈ allOperands joint tokens) : Balanced part :=
  hbalanced.of_mem_parts hpart

/-- An operand holds no connective of its group outside its own groups. -/
theorem not_joins_of_mem_allOperands {joint : Connective} {tokens part : List Token}
    (hpart : part ∈ allOperands joint tokens) : joins joint part = false := by
  rw [joins_eq_false_iff, operands, split_snd_eq_nil_iff]
  exact not_isCut_of_mem_parts hpart

/-- No connective stands outside a group that is the whole range. -/
theorem not_joins_enclose (joint : Connective) {opening closing : Token} {inner : List Token}
    (hopening : opening.kind = .opening) (hclosing : closing.kind = .closing)
    (hinner : Balanced inner) : joins joint (opening :: (inner ++ [closing])) = false := by
  rw [joins_eq_false_iff, operands, split_enclose hopening hclosing hinner]

/-- A balanced range with no connective outside its groups. -/
structure Closed (tokens : List Token) : Prop where
  balanced : Balanced tokens
  not_joins : ∀ joint, joins joint tokens = false

theorem closed_nil : Closed [] := ⟨.empty, fun _ => rfl⟩

theorem Closed.cons {token : Token} {tokens : List Token} (hweight : weight token = 0)
    (hkind : ∀ joint, token.kind ≠ .connective joint) (htokens : Closed tokens) :
    Closed (token :: tokens) where
  balanced := .single hweight htokens.balanced
  not_joins := by
    intro joint
    rw [joins_eq_false_iff, operands,
      split_cons_of_not_separates hweight (decide_eq_false (hkind joint))]
    exact joins_eq_false_iff.mp (htokens.not_joins joint)

/-- A variable is a closed range. -/
theorem closed_variable {token : Token} (hkind : token.kind = .variable) : Closed [token] :=
  closed_nil.cons (by simp [weight, hkind]) (by simp [hkind])

/-- A negation of a closed range is closed. -/
theorem Closed.negation {negation : Token} {tokens : List Token} (htokens : Closed tokens)
    (hnot : negation.kind = .not) : Closed (negation :: tokens) :=
  htokens.cons (by simp [weight, hnot]) (by simp [hnot])

theorem closed_enclose {opening closing : Token} {inner : List Token}
    (hopening : opening.kind = .opening) (hclosing : closing.kind = .closing)
    (hinner : Balanced inner) : Closed (opening :: (inner ++ [closing])) where
  balanced := .enclose hopening hclosing hinner
  not_joins joint := not_joins_enclose joint hopening hclosing hinner

/-- Only a bare range can hold a connective outside its groups. -/
theorem Balanced.strip?_of_joins {joint : Connective} {tokens : List Token}
    (hbalanced : Balanced tokens) (hjoins : joins joint tokens = true) :
    strip? tokens = some tokens := by
  rcases hbalanced.bare_or_group with hbare | ⟨opening, inner, closing, hopening, hclosing,
    hinner, rfl⟩
  · exact strip?_of_bare hbare
  · rw [not_joins_enclose joint hopening hclosing hinner] at hjoins
    exact absurd hjoins Bool.false_ne_true

section Rejoin

variable {joint : Connective} {first : List Token} {others : List (Token × List Token)}
  (hfirst : Closed first) (hothers : ∀ other ∈ others, Closed other.2)
  (hseparators : ∀ other ∈ others, other.1.kind = .connective joint)

include hfirst hothers hseparators

theorem balanced_rejoin : Balanced (rejoin first others) :=
  hfirst.balanced.rejoin (fun other hother => (hothers other hother).balanced)
    fun other hother => weight_of_connective (hseparators other hother)

/-- Closed ranges joined by a connective are its operands. -/
theorem operands_rejoin : operands joint (rejoin first others) = (first, others.map Prod.snd) := by
  have hclosed : ∀ part ∈ first :: others.map Prod.snd, Closed part :=
    List.forall_mem_cons.mpr ⟨hfirst, List.forall_mem_map.mpr hothers⟩
  refine (divides_of_balanced ?_ ?_).split_rejoin
  · intro part hpart
    have huncut := operands_eq_self ((hclosed part hpart).not_joins joint)
    exact ⟨(hclosed part hpart).balanced, split_eq_self_iff.mp huncut⟩
  · intro other hother
    exact ⟨weight_of_connective (hseparators other hother),
      decide_eq_true (hseparators other hother)⟩

/-- Closed ranges joined by one connective are not joined by the other. -/
theorem not_joins_rejoin {another : Connective} (hanother : another ≠ joint) :
    joins another (rejoin first others) = false := by
  rw [joins_eq_false_iff]
  induction others generalizing first with
  | nil => rw [rejoin_nil, operands_eq_self (hfirst.not_joins another)]
  | cons other others ih =>
      obtain ⟨separator, second⟩ := other
      rw [List.forall_mem_cons] at hothers hseparators
      have hkind : decide (separator.kind = .connective another) = false := by
        simp [hseparators.1, hanother.symm]
      rw [rejoin_cons, operands,
        split_append hfirst.balanced (operands_eq_self (hfirst.not_joins another)),
        split_cons_of_not_separates (weight_of_connective hseparators.1) hkind]
      exact ih hothers.1 hothers.2 hseparators.2

end Rejoin

end Grouping

end Clausal
