import Clausal.Proofs.Grouping.Surroundings
import Mathlib.Combinatorics.Enumerative.DyckWord

/-!
# The parenthesis at fault

`Grouping.imbalance` keeps the positions of the open groups and reports the parenthesis at which
that fails.  Here it is said without them which parenthesis that is.  Three things can be the
matter with a range (`standing`): it is balanced, or a balanced beginning of it is followed by a
closing parenthesis, or a balanced end of it is preceded by an opening one, and what is before
that never closes more than it opens.  In the third case the opening parenthesis is the last one
without a partner, but not the only one: any number of groups may be open before it.

A range is balanced if and only if its parentheses make a Dyck word
(`balanced_iff_exists_dyckWord`).
-/

namespace Clausal

namespace Grouping

/-! ## Counting parentheses -/

/-- The number of opening parentheses of a range. -/
def openings (tokens : List Token) : Nat := tokens.countP fun token => token.kind = .opening

/-- The number of closing parentheses of a range. -/
def closings (tokens : List Token) : Nat := tokens.countP fun token => token.kind = .closing

/-- Some beginning of the range has more closing parentheses than opening ones. -/
def Overdraws (tokens : List Token) : Prop :=
  ∃ front, front <+: tokens ∧ openings front < closings front

theorem depth_eq_openings_sub_closings (tokens : List Token) :
    depth tokens = openings tokens - closings tokens := by
  induction tokens with
  | nil => rfl
  | cons token rest ih =>
      rw [depth_cons, ih]
      unfold openings closings weight
      rw [List.countP_cons, List.countP_cons]
      split <;> simp_all <;> omega

theorem overdraws_iff_exists_depth_neg {tokens : List Token} :
    Overdraws tokens ↔ ∃ front, front <+: tokens ∧ depth front < 0 := by
  unfold Overdraws
  refine exists_congr fun front => and_congr_right fun _ => ?_
  rw [depth_eq_openings_sub_closings]
  omega

/-! ## Ranges that close no more than is open -/

/-- Inside `opened` groups, no beginning of the range closes more than is open. -/
def StaysWithin (opened : Int) (tokens : List Token) : Prop :=
  ∀ front, front <+: tokens → 0 ≤ opened + depth front

theorem not_overdraws_iff_staysWithin {tokens : List Token} :
    ¬ Overdraws tokens ↔ StaysWithin 0 tokens := by
  rw [overdraws_iff_exists_depth_neg]
  simp only [StaysWithin, Int.zero_add, not_exists, not_and, not_lt]

theorem staysWithin_nil {opened : Int} : StaysWithin opened [] ↔ 0 ≤ opened := by
  simp [StaysWithin]

theorem staysWithin_cons {opened : Int} {token : Token} {rest : List Token} :
    StaysWithin opened (token :: rest) ↔
      0 ≤ opened ∧ StaysWithin (opened + weight token) rest := by
  constructor
  · intro hstays
    refine ⟨by simpa using hstays [] List.nil_prefix, fun front hfront => ?_⟩
    have hlonger := hstays (token :: front) (List.prefix_cons_inj token |>.mpr hfront)
    rw [depth_cons] at hlonger
    omega
  · rintro ⟨hopened, hrest⟩ front hfront
    rcases List.prefix_cons_iff.mp hfront with rfl | ⟨shorter, rfl, hshorter⟩
    · simpa using hopened
    · have hshorter := hrest shorter hshorter
      rw [depth_cons]
      omega

theorem StaysWithin.nonneg {opened : Int} {tokens : List Token}
    (hstays : StaysWithin opened tokens) : 0 ≤ opened := by
  simpa using hstays [] List.nil_prefix

theorem StaysWithin.mono {opened opened' : Int} {tokens : List Token}
    (hstays : StaysWithin opened tokens) (hle : opened ≤ opened') : StaysWithin opened' tokens :=
  fun front hfront => (hstays front hfront).trans (by omega)

theorem staysWithin_append {opened : Int} {first rest : List Token} :
    StaysWithin opened (first ++ rest) ↔
      StaysWithin opened first ∧ StaysWithin (opened + depth first) rest := by
  induction first generalizing opened with
  | nil =>
      rw [List.nil_append, depth_nil, Int.add_zero, staysWithin_nil]
      exact (and_iff_right_of_imp StaysWithin.nonneg).symm
  | cons token first ih =>
      rw [List.cons_append, staysWithin_cons, ih, staysWithin_cons, depth_cons, Int.add_assoc,
        and_assoc]

/-- A balanced range closes only what it opened itself. -/
theorem Balanced.staysWithin {tokens : List Token} (hbalanced : Balanced tokens) {opened : Int}
    (hopened : 0 ≤ opened) : StaysWithin opened tokens := by
  induction hbalanced generalizing opened with
  | empty => exact staysWithin_nil.mpr hopened
  | single hweight _ ih =>
      rw [staysWithin_cons, hweight, Int.add_zero]
      exact ⟨hopened, ih hopened⟩
  | group hopening hclosing hinner _ ihInner ihRest =>
      rw [staysWithin_cons, weight_of_opening hopening, staysWithin_append, hinner.depth_eq_zero,
        Int.add_zero, staysWithin_cons, weight_of_closing hclosing, Int.add_neg_cancel_right]
      exact ⟨hopened, ihInner (by omega), by omega, ihRest hopened⟩

theorem Balanced.not_overdraws {tokens : List Token} (hbalanced : Balanced tokens) :
    ¬ Overdraws tokens :=
  not_overdraws_iff_staysWithin.mpr (hbalanced.staysWithin le_rfl)

theorem overdraws_append_closing {before : List Token} (hbefore : Balanced before) {closing : Token}
    (hclosing : closing.kind = .closing) (after : List Token) :
    Overdraws (before ++ closing :: after) := by
  rw [overdraws_iff_exists_depth_neg]
  refine ⟨before ++ [closing], ⟨after, by simp⟩, ?_⟩
  rw [depth_append, hbefore.depth_eq_zero, depth_cons, weight_of_closing hclosing]
  decide

/-! ## What can be the matter -/

/-- How the parentheses of a range stand to each other. -/
inductive Standing : List Token → Prop
  | balanced {tokens : List Token} (hbalanced : Balanced tokens) : Standing tokens
  | unmatched {before after : List Token} {closing : Token} (hbefore : Balanced before)
      (hclosing : closing.kind = .closing) : Standing (before ++ closing :: after)
  | unclosed {before after : List Token} {opening : Token} (hbefore : ¬ Overdraws before)
      (hopening : opening.kind = .opening) (hafter : Balanced after) :
      Standing (before ++ opening :: after)

theorem Standing.append_left {first tokens : List Token} (hfirst : Balanced first)
    (hstanding : Standing tokens) : Standing (first ++ tokens) := by
  cases hstanding with
  | balanced hbalanced => exact .balanced (hfirst.append hbalanced)
  | unmatched hbefore hclosing =>
      rw [← List.append_assoc]
      exact .unmatched (hfirst.append hbefore) hclosing
  | unclosed hbefore hopening hafter =>
      rw [← List.append_assoc]
      refine .unclosed ?_ hopening hafter
      rw [not_overdraws_iff_staysWithin] at hbefore ⊢
      rw [staysWithin_append, hfirst.depth_eq_zero, Int.add_zero]
      exact ⟨hfirst.staysWithin le_rfl, hbefore⟩

/-- By induction on the length: a group that is closed leaves a shorter range to be looked at. -/
theorem standing (tokens : List Token) : Standing tokens := by
  induction hlength : tokens.length using Nat.strongRecOn generalizing tokens with
  | ind length ih =>
      have hshorter : ∀ rest : List Token, rest.length < tokens.length → Standing rest :=
        fun rest hless => ih rest.length (hlength ▸ hless) rest rfl
      cases tokens with
      | nil => exact .balanced .empty
      | cons token rest =>
          by_cases hclosing : token.kind = .closing
          · exact @Standing.unmatched [] rest token .empty hclosing
          by_cases hopening : token.kind = .opening
          · cases hshorter rest (by simp) with
            | balanced hbalanced =>
                have hnothing := Balanced.empty.not_overdraws
                exact @Standing.unclosed [] rest token hnothing hopening hbalanced
            | @unmatched inner after closing hinner hclosing =>
                have hgroup : Balanced (token :: (inner ++ [closing])) :=
                  .enclose hopening hclosing hinner
                have hstanding := (hshorter after (by simp; omega)).append_left hgroup
                rwa [List.cons_append, List.append_assoc, List.singleton_append] at hstanding
            | @unclosed before after last hbefore hlast hafter =>
                have hlonger : ¬ Overdraws (token :: before) := by
                  rw [not_overdraws_iff_staysWithin] at hbefore ⊢
                  rw [staysWithin_cons, weight_of_opening hopening]
                  exact ⟨le_rfl, hbefore.mono (by decide)⟩
                exact .unclosed hlonger hlast hafter
          · have hweight := weight_eq_zero_iff.mpr ⟨hopening, hclosing⟩
            have hsingle : Balanced [token] := .single hweight .empty
            exact (hshorter rest (by simp)).append_left hsingle

/-- A range is balanced if its parentheses are as many of either kind and none closes more than
is open. -/
theorem balanced_iff_counts {tokens : List Token} :
    Balanced tokens ↔ ¬ Overdraws tokens ∧ openings tokens = closings tokens := by
  have hdepth := depth_eq_openings_sub_closings tokens
  constructor
  · intro hbalanced
    have hzero := hbalanced.depth_eq_zero
    exact ⟨hbalanced.not_overdraws, by omega⟩
  · rintro ⟨hwithin, hcounts⟩
    cases standing tokens with
    | balanced hbalanced => exact hbalanced
    | unmatched hbefore hclosing =>
        exact absurd (overdraws_append_closing hbefore hclosing _) hwithin
    | @unclosed before after opening hbefore hopening hafter =>
        have hopen := not_overdraws_iff_staysWithin.mp hbefore before List.prefix_rfl
        rw [depth_append, depth_cons, weight_of_opening hopening, hafter.depth_eq_zero] at hdepth
        omega

/-! ## Dyck words -/

/-- The step of a parenthesis: up if it opens a group, down if it closes one. -/
def step? (token : Token) : Option DyckStep :=
  match token.kind with
  | .opening => some .U
  | .closing => some .D
  | _ => none

/-- The steps of the parentheses of a range, in order. -/
def steps (tokens : List Token) : List DyckStep := tokens.filterMap step?

theorem count_steps (tokens : List Token) :
    (steps tokens).count .U = openings tokens ∧ (steps tokens).count .D = closings tokens := by
  unfold steps openings closings
  rw [List.count_filterMap, List.count_filterMap]
  refine ⟨List.countP_congr fun token _ => ?_, List.countP_congr fun token _ => ?_⟩ <;>
    · unfold step?
      split <;> simp_all

theorem not_overdraws_iff_forall_take {tokens : List Token} :
    ¬ Overdraws tokens ↔
      ∀ i, ((steps tokens).take i).count .D ≤ ((steps tokens).take i).count .U := by
  unfold Overdraws
  push Not
  constructor
  · intro hwithin i
    obtain ⟨front, hfront, hsteps⟩ :=
      List.prefix_filterMap_iff.mp (List.take_prefix i (steps tokens))
    rw [hsteps, ← steps, (count_steps front).1, (count_steps front).2]
    exact hwithin front hfront
  · intro hwithin front hfront
    have htake : steps front = (steps tokens).take (steps front).length :=
      List.prefix_iff_eq_take.mp (hfront.filterMap step?)
    have hcounts := hwithin (steps front).length
    rwa [← htake, (count_steps front).1, (count_steps front).2] at hcounts

/-- A range is balanced if and only if its parentheses make a Dyck word. -/
theorem balanced_iff_exists_dyckWord {tokens : List Token} :
    Balanced tokens ↔ ∃ word : DyckWord, word.toList = steps tokens := by
  rw [balanced_iff_counts, not_overdraws_iff_forall_take, ← (count_steps tokens).1,
    ← (count_steps tokens).2]
  constructor
  · rintro ⟨hwithin, hcounts⟩
    exact ⟨⟨steps tokens, hcounts, hwithin⟩, rfl⟩
  · rintro ⟨word, hword⟩
    rw [← hword]
    exact ⟨word.count_D_le_count_U, word.count_U_eq_count_D⟩

/-! ## Partners -/

/-- The group that is opened just before the range is closed in it: the partner of an opening
parenthesis is the closing one behind a balanced range. -/
def ClosesGroup (tokens : List Token) : Prop :=
  ∃ inner closing rest, tokens = inner ++ closing :: rest ∧ closing.kind = .closing ∧
    Balanced inner

theorem closesGroup_iff_overdraws {tokens : List Token} :
    ClosesGroup tokens ↔ Overdraws tokens := by
  constructor
  · rintro ⟨inner, closing, rest, rfl, hclosing, hinner⟩
    exact overdraws_append_closing hinner hclosing rest
  · intro hoverdraws
    cases standing tokens with
    | balanced hbalanced => exact absurd hoverdraws hbalanced.not_overdraws
    | unmatched hbefore hclosing => exact ⟨_, _, _, rfl, hclosing, hbefore⟩
    | @unclosed before after opening hbefore hopening hafter =>
        rw [not_overdraws_iff_staysWithin] at hbefore
        have hopen := hbefore before List.prefix_rfl
        refine absurd hoverdraws (not_overdraws_iff_staysWithin.mpr ?_)
        rw [staysWithin_append, staysWithin_cons]
        exact ⟨hbefore, hopen, hafter.staysWithin (by rw [weight_of_opening hopening]; omega)⟩

/-- Every group of a balanced range is closed in it. -/
theorem Balanced.closesGroup {front rest : List Token} {opening : Token}
    (hbalanced : Balanced (front ++ opening :: rest)) (hopening : opening.kind = .opening) :
    ClosesGroup rest := by
  rw [closesGroup_iff_overdraws]
  by_contra hwithin
  have hfront := hbalanced.staysWithin le_rfl front (List.prefix_append _ _)
  have hrest := not_overdraws_iff_staysWithin.mp hwithin rest List.prefix_rfl
  have hdepth := hbalanced.depth_eq_zero
  rw [depth_append, depth_cons, weight_of_opening hopening] at hdepth
  omega

/-! ## What is reported -/

/-- The closing parenthesis is the first that more groups are closed with than were opened. -/
def IsFirstUnmatched (tokens : List Token) (closing : Token) : Prop :=
  ∃ before after, tokens = before ++ closing :: after ∧ closing.kind = .closing ∧
    openings (before ++ [closing]) < closings (before ++ [closing]) ∧ ¬ Overdraws before

/-- The opening parenthesis is the last that has no partner behind it. -/
def IsLastUnclosed (tokens : List Token) (opening : Token) : Prop :=
  ∃ before after, tokens = before ++ opening :: after ∧ opening.kind = .opening ∧
    ¬ ClosesGroup after ∧ ∀ front later rest, after = front ++ later :: rest →
      later.kind = .opening → ClosesGroup rest

theorem isFirstUnmatched_append {before : List Token} (hbefore : Balanced before) {closing : Token}
    (hclosing : closing.kind = .closing) (after : List Token) :
    IsFirstUnmatched (before ++ closing :: after) closing := by
  refine ⟨before, after, rfl, hclosing, ?_, hbefore.not_overdraws⟩
  have hdepth := depth_eq_openings_sub_closings (before ++ [closing])
  rw [depth_append, hbefore.depth_eq_zero, depth_cons, weight_of_closing hclosing] at hdepth
  simp only [depth_nil] at hdepth
  omega

theorem isLastUnclosed_append (before : List Token) {opening : Token}
    (hopening : opening.kind = .opening) {after : List Token} (hafter : Balanced after) :
    IsLastUnclosed (before ++ opening :: after) opening := by
  refine ⟨before, after, rfl, hopening, ?_, ?_⟩
  · rw [closesGroup_iff_overdraws]
    exact hafter.not_overdraws
  · rintro front later rest rfl hlater
    exact hafter.closesGroup hlater

theorem imbalance_append_closing {before : List Token} (hbefore : Balanced before) {closing : Token}
    (hclosing : closing.kind = .closing) (after : List Token) :
    imbalance (before ++ closing :: after) = some (.unmatchedClosing closing.position) := by
  rw [imbalance, imbalanceWithin_append hbefore]
  simp [imbalanceWithin, hclosing]

/-- A range that closes no more than is open is passed without a fault; some groups are open
behind it. -/
theorem exists_imbalanceWithin_append {opened : List Nat} {before : List Token}
    (hbefore : StaysWithin opened.length before) :
    ∃ opened', ∀ rest, imbalanceWithin opened (before ++ rest) = imbalanceWithin opened' rest := by
  induction before generalizing opened with
  | nil => exact ⟨opened, fun _ => rfl⟩
  | cons token before ih =>
      rw [staysWithin_cons] at hbefore
      by_cases hopening : token.kind = .opening
      · have hwithin : StaysWithin (token.position :: opened).length before := by
          simpa [weight_of_opening hopening] using hbefore.2
        obtain ⟨opened', hpass⟩ := ih hwithin
        refine ⟨opened', fun rest => ?_⟩
        rw [List.cons_append, imbalanceWithin_of_opening hopening, hpass]
      by_cases hclosing : token.kind = .closing
      · rw [weight_of_closing hclosing] at hbefore
        cases opened with
        | nil => exact absurd hbefore.2.nonneg (by decide)
        | cons innermost outer =>
            have hwithin : StaysWithin outer.length before := by simpa using hbefore.2
            obtain ⟨opened', hpass⟩ := ih hwithin
            refine ⟨opened', fun rest => ?_⟩
            rw [List.cons_append, imbalanceWithin_of_closing hclosing, hpass]
      · have hweight := weight_eq_zero_iff.mpr ⟨hopening, hclosing⟩
        rw [hweight, Int.add_zero] at hbefore
        obtain ⟨opened', hpass⟩ := ih hbefore.2
        refine ⟨opened', fun rest => ?_⟩
        rw [List.cons_append, imbalanceWithin_of_weight_eq_zero hweight, hpass]

theorem imbalance_append_opening {before : List Token} (hbefore : ¬ Overdraws before)
    {opening : Token} (hopening : opening.kind = .opening) {after : List Token}
    (hafter : Balanced after) :
    imbalance (before ++ opening :: after) = some (.unclosedOpening opening.position) := by
  have hwithin : StaysWithin ([] : List Nat).length before :=
    not_overdraws_iff_staysWithin.mp hbefore
  obtain ⟨opened, hpass⟩ := exists_imbalanceWithin_append hwithin
  have hrest := imbalanceWithin_append hafter (opening.position :: opened) []
  rw [List.append_nil] at hrest
  rw [imbalance, hpass, imbalanceWithin_of_opening hopening, hrest]
  rfl

/-- **The parenthesis at fault.**  A range has no fault if and only if its parentheses make a Dyck
word.  If some beginning of it has more closing parentheses than opening ones, then the first
closing one that makes it so is reported, whatever is open or opened later.  If none has, but
there are more opening ones in all, then the last of these that has no partner is reported. -/
theorem imbalance_names_fault (tokens : List Token) :
    (imbalance tokens = none ↔ ∃ word : DyckWord, word.toList = steps tokens) ∧
      (Overdraws tokens → ∃ closing, IsFirstUnmatched tokens closing ∧
        imbalance tokens = some (.unmatchedClosing closing.position)) ∧
      (¬ Overdraws tokens → closings tokens < openings tokens → ∃ opening,
        IsLastUnclosed tokens opening ∧
          imbalance tokens = some (.unclosedOpening opening.position)) := by
  refine ⟨imbalance_eq_none_iff.trans balanced_iff_exists_dyckWord, fun hoverdraws => ?_,
    fun hwithin hmore => ?_⟩
  · obtain ⟨before, closing, after, rfl, hclosing, hbefore⟩ :=
      closesGroup_iff_overdraws.mpr hoverdraws
    exact ⟨closing, isFirstUnmatched_append hbefore hclosing after,
      imbalance_append_closing hbefore hclosing after⟩
  · cases standing tokens with
    | balanced hbalanced => exact absurd (balanced_iff_counts.mp hbalanced).2 (by omega)
    | unmatched hbefore hclosing =>
        exact absurd (overdraws_append_closing hbefore hclosing _) hwithin
    | unclosed hbefore hopening hafter =>
        exact ⟨_, isLastUnclosed_append _ hopening hafter,
          imbalance_append_opening hbefore hopening hafter⟩

/-- The last opening parenthesis without a partner may be the first of all. -/
example : imbalance (Token.scan "(A v ((B) ^ C)") = some (.unclosedOpening 0) := by
  decide +kernel

end Grouping

end Clausal
