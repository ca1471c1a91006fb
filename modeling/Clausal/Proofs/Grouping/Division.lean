import Clausal.Proofs.Grouping.Balance
import Mathlib.Data.List.Induction

/-!
# Cutting and joining

`Grouping.split` carries the number of open groups along the whole range and cuts at the
separators that it meets while that number is zero.  `rejoin` puts parts together, each but the
first after its separator.  For any range, balanced or not, the one is the inverse of the other:
`Divides` says what parts and separators must be like, every range has one such division, and
that is the one it is cut into (`split_eq_iff`).

What relates the number of open groups to the parts is the depth.  As long as nothing was cut,
that number is the depth of what was passed (`split_append_of_not_isCut`).  A cut is made at depth
zero only, so behind it the cutting goes on as if the range began there.
-/

namespace Clausal

namespace Grouping

variable {separates : Token.Kind → Bool}

/-! ## Cutting step by step -/

theorem splitWithin_cons_of_cut {token : Token} {opened : Int}
    (hcut : weight token = 0 ∧ opened = 0 ∧ separates token.kind = true) (rest : List Token) :
    splitWithin separates opened (token :: rest) =
      ([], (splitWithin separates opened rest).1 :: (splitWithin separates opened rest).2) := by
  rw [splitWithin, if_pos hcut]

theorem splitWithin_cons_of_not_cut {token : Token} {opened : Int}
    (hcut : ¬ (weight token = 0 ∧ opened = 0 ∧ separates token.kind = true)) (rest : List Token) :
    splitWithin separates opened (token :: rest) =
      (token :: (splitWithin separates (opened + weight token) rest).1,
        (splitWithin separates (opened + weight token) rest).2) := by
  rw [splitWithin, if_neg hcut]

@[simp] theorem split_nil : split separates [] = ([], []) := rfl

/-! ## Separators outside every group -/

/-- A token that a range can be cut at: of a kind that separates, and no parenthesis. -/
def IsSeparator (separates : Token.Kind → Bool) (token : Token) : Prop :=
  weight token = 0 ∧ separates token.kind = true

/-- A separator stands in the range outside every group. -/
def IsCut (separates : Token.Kind → Bool) (tokens : List Token) : Prop :=
  ∃ before separator after, tokens = before ++ separator :: after ∧ depth before = 0 ∧
    IsSeparator separates separator

theorem not_isCut_nil : ¬ IsCut separates [] := by
  rintro ⟨before, separator, after, htokens, -⟩
  simp at htokens

theorem isCut_concat {front : List Token} {token : Token} :
    IsCut separates (front ++ [token]) ↔
      IsCut separates front ∨ depth front = 0 ∧ IsSeparator separates token := by
  constructor
  · rintro ⟨before, separator, after, htokens, hdepth, hseparator⟩
    rcases List.eq_nil_or_concat' after with rfl | ⟨init, last, rfl⟩
    · -- the separator is the last token
      obtain ⟨rfl, hlast⟩ := List.append_inj' htokens rfl
      obtain rfl : token = separator := by simpa using hlast
      exact Or.inr ⟨hdepth, hseparator⟩
    · rw [← List.cons_append, ← List.append_assoc] at htokens
      obtain ⟨rfl, -⟩ := List.append_inj' htokens rfl
      exact Or.inl ⟨before, separator, init, rfl, hdepth, hseparator⟩
  · rintro (⟨before, separator, after, rfl, hdepth, hseparator⟩ | ⟨hdepth, hseparator⟩)
    · exact ⟨before, separator, after ++ [token], by simp, hdepth, hseparator⟩
    · exact ⟨front, token, [], rfl, hdepth, hseparator⟩

/-- There is a first separator outside every group, if there is any. -/
theorem IsCut.exists_first {tokens : List Token} (hcut : IsCut separates tokens) :
    ∃ first separator rest, tokens = first ++ separator :: rest ∧ ¬ IsCut separates first ∧
      depth first = 0 ∧ IsSeparator separates separator := by
  induction tokens using List.reverseRecOn with
  | nil => exact absurd hcut not_isCut_nil
  | append_singleton front token ih =>
      by_cases hfront : IsCut separates front
      · obtain ⟨first, separator, rest, rfl, hfirst⟩ := ih hfront
        exact ⟨first, separator, rest ++ [token], by simp, hfirst⟩
      · have hlast := (isCut_concat.mp hcut).resolve_left hfront
        exact ⟨front, token, [], rfl, hfront, hlast⟩

/-- What no separator cuts is passed, and the number of open groups behind it is its depth.  The
induction adds a token at the end: only then is the number known at which it is met. -/
theorem split_append_of_not_isCut {first : List Token} (huncut : ¬ IsCut separates first)
    (rest : List Token) :
    split separates (first ++ rest) =
      (first ++ (splitWithin separates (depth first) rest).1,
        (splitWithin separates (depth first) rest).2) := by
  induction first using List.reverseRecOn generalizing rest with
  | nil => rfl
  | append_singleton front token ih =>
      rw [isCut_concat, not_or] at huncut
      have hpassed : ¬ (weight token = 0 ∧ depth front = 0 ∧ separates token.kind = true) :=
        fun hcut => huncut.2 ⟨hcut.2.1, hcut.1, hcut.2.2⟩
      have hdepth : depth (front ++ [token]) = depth front + weight token := by
        rw [depth_append, depth_cons, depth_nil, Int.add_zero]
      rw [List.append_assoc, List.singleton_append, ih huncut.1,
        splitWithin_cons_of_not_cut hpassed, hdepth, List.append_assoc, List.singleton_append]

theorem split_of_not_isCut {tokens : List Token} (huncut : ¬ IsCut separates tokens) :
    split separates tokens = (tokens, []) := by
  have hpass := split_append_of_not_isCut huncut []
  rwa [splitWithin, List.append_nil] at hpass

theorem split_append_separator_of_depth {first : List Token} (huncut : ¬ IsCut separates first)
    (hdepth : depth first = 0) {separator : Token} (hseparator : IsSeparator separates separator)
    (rest : List Token) :
    split separates (first ++ separator :: rest) =
      (first, (split separates rest).1 :: (split separates rest).2) := by
  rw [split_append_of_not_isCut huncut, hdepth,
    splitWithin_cons_of_cut ⟨hseparator.1, rfl, hseparator.2⟩, List.append_nil]
  rfl

theorem split_snd_eq_nil_iff {tokens : List Token} :
    (split separates tokens).2 = [] ↔ ¬ IsCut separates tokens := by
  constructor
  · intro hnil hcut
    obtain ⟨first, separator, rest, rfl, huncut, hdepth, hseparator⟩ := hcut.exists_first
    rw [split_append_separator_of_depth huncut hdepth hseparator] at hnil
    exact absurd hnil (List.cons_ne_nil _ _)
  · intro huncut
    rw [split_of_not_isCut huncut]

/-- A range that nothing cuts is its only part. -/
theorem split_eq_self {tokens : List Token} (huncut : (split separates tokens).2 = []) :
    split separates tokens = (tokens, []) :=
  split_of_not_isCut (split_snd_eq_nil_iff.mp huncut)

theorem split_eq_self_iff {tokens : List Token} :
    split separates tokens = (tokens, []) ↔ ¬ IsCut separates tokens := by
  refine ⟨fun hsplit => ?_, split_of_not_isCut⟩
  rw [← split_snd_eq_nil_iff, hsplit]

/-! ## Rejoining -/

/-- A range put together from its parts: the first, and the others after their
separators. -/
def rejoin (first : List Token) (others : List (Token × List Token)) : List Token :=
  first ++ others.flatMap fun other => other.1 :: other.2

@[simp] theorem rejoin_nil (first : List Token) : rejoin first [] = first := by simp [rejoin]

theorem rejoin_cons (first : List Token) (separator : Token) (second : List Token)
    (others : List (Token × List Token)) :
    rejoin first ((separator, second) :: others) = first ++ separator :: rejoin second others := by
  simp [rejoin]

/-! ## Divisions -/

/-- The first part and the others, with their separators, are a range cut at all its separators
outside every group: none is left in a part, and every part but the last closes as many groups as
it opens. -/
inductive Divides (separates : Token.Kind → Bool) :
    List Token → List (Token × List Token) → Prop
  | last {part : List Token} (huncut : ¬ IsCut separates part) : Divides separates part []
  | cut {part second : List Token} {separator : Token} {others : List (Token × List Token)}
      (huncut : ¬ IsCut separates part) (hdepth : depth part = 0)
      (hseparator : IsSeparator separates separator) (hothers : Divides separates second others) :
      Divides separates part ((separator, second) :: others)

namespace Divides

variable {first : List Token} {others : List (Token × List Token)}

theorem isSeparator (hdivides : Divides separates first others) :
    ∀ other ∈ others, IsSeparator separates other.1 := by
  induction hdivides with
  | last => simp
  | cut _ _ hseparator _ ih => exact List.forall_mem_cons.mpr ⟨hseparator, ih⟩

theorem not_isCut (hdivides : Divides separates first others) :
    ∀ part ∈ first :: others.map Prod.snd, ¬ IsCut separates part := by
  induction hdivides with
  | last huncut => simpa using huncut
  | cut huncut _ _ _ ih => exact List.forall_mem_cons.mpr ⟨huncut, ih⟩

/-- The parts of a division are those that the range is cut into. -/
theorem split_rejoin (hdivides : Divides separates first others) :
    split separates (rejoin first others) = (first, others.map Prod.snd) := by
  induction hdivides with
  | last huncut => rw [rejoin_nil, split_of_not_isCut huncut, List.map_nil]
  | cut huncut hdepth hseparator _ ih =>
      rw [rejoin_cons, split_append_separator_of_depth huncut hdepth hseparator, ih, List.map_cons]

end Divides

/-- Every range has a division: behind its first separator outside every group the rest is
shorter. -/
theorem exists_divides (separates : Token.Kind → Bool) (tokens : List Token) :
    ∃ first others, Divides separates first others ∧ tokens = rejoin first others := by
  induction hlength : tokens.length using Nat.strongRecOn generalizing tokens with
  | ind length ih =>
      by_cases hcut : IsCut separates tokens
      · obtain ⟨first, separator, rest, rfl, huncut, hdepth, hseparator⟩ := hcut.exists_first
        have hshorter : rest.length < length := by
          rw [← hlength, List.length_append, List.length_cons]
          omega
        obtain ⟨second, others, hdivides, rfl⟩ := ih rest.length hshorter rest rfl
        exact ⟨first, (separator, second) :: others, .cut huncut hdepth hseparator hdivides,
          (rejoin_cons ..).symm⟩
      · exact ⟨tokens, [], .last hcut, (rejoin_nil tokens).symm⟩

/-- A range is cut into the parts of its division, and it has no other. -/
theorem split_eq_iff {tokens first : List Token} {parts : List (List Token)} :
    split separates tokens = (first, parts) ↔ ∃ others, Divides separates first others ∧
      others.map Prod.snd = parts ∧ rejoin first others = tokens := by
  constructor
  · intro hsplit
    obtain ⟨first', others, hdivides, rfl⟩ := exists_divides separates tokens
    rw [hdivides.split_rejoin, Prod.mk.injEq] at hsplit
    obtain ⟨rfl, hparts⟩ := hsplit
    exact ⟨others, hdivides, hparts, rfl⟩
  · rintro ⟨others, hdivides, rfl, rfl⟩
    exact hdivides.split_rejoin

theorem exists_divides_split (separates : Token.Kind → Bool) (tokens : List Token) :
    ∃ others, Divides separates (split separates tokens).1 others ∧
      others.map Prod.snd = (split separates tokens).2 ∧
      rejoin (split separates tokens).1 others = tokens :=
  split_eq_iff.mp rfl

/-- The parts of any range put together again are the range. -/
theorem exists_rejoin_split (separates : Token.Kind → Bool) (tokens : List Token) :
    ∃ others : List (Token × List Token), others.map Prod.snd = (split separates tokens).2 ∧
      (∀ other ∈ others, separates other.1.kind = true) ∧
      tokens = rejoin (split separates tokens).1 others := by
  obtain ⟨others, hdivides, hparts, hjoin⟩ := exists_divides_split separates tokens
  exact ⟨others, hparts, fun other hother => (hdivides.isSeparator other hother).2, hjoin.symm⟩

end Grouping

end Clausal
