import Clausal.Proofs.Grouping.Balance

/-!
# Enclosing pairs

`Grouping.strip?` takes away the pairs of parentheses around a range one by one.
`Wraps` is the relation between a range and what is left of it, without the
algorithm: some pairs around the rest.  For any range the algorithm arrives at such
a rest, whose ends are no pair any more; for a balanced range it always arrives
(`Balanced.exists_strip?_eq_some`), and one more pair around it changes nothing
(`strip?_enclose`).
-/

namespace Clausal

namespace Grouping

/-! ## The groups open along a range -/

theorem openThroughout_of_opening {token : Token} (hkind : token.kind = .opening) (opened : Nat)
    (rest : List Token) :
    openThroughout opened (token :: rest) = openThroughout (opened + 1) rest := by
  simp [openThroughout, hkind]

theorem openThroughout_of_closing {token : Token} (hkind : token.kind = .closing) (opened : Nat)
    (rest : List Token) :
    openThroughout (opened + 2) (token :: rest) = openThroughout (opened + 1) rest := by
  simp [openThroughout, hkind]

theorem openThroughout_one_of_closing {token : Token} (hkind : token.kind = .closing)
    (rest : List Token) : openThroughout 1 (token :: rest) = none := by
  simp [openThroughout, hkind]

theorem openThroughout_of_weight_eq_zero {token : Token} (hweight : weight token = 0)
    (opened : Nat) (rest : List Token) :
    openThroughout opened (token :: rest) = openThroughout opened rest := by
  obtain ⟨hopening, hclosing⟩ := weight_eq_zero_iff.mp hweight
  rw [openThroughout]
  split <;> simp_all

/-- A balanced range inside a group leaves that group open. -/
theorem openThroughout_append {inner : List Token} (hinner : Balanced inner) (opened : Nat)
    (rest : List Token) :
    openThroughout (opened + 1) (inner ++ rest) = openThroughout (opened + 1) rest := by
  induction hinner generalizing opened rest with
  | empty => rfl
  | single hweight _ ih =>
      rw [List.cons_append, openThroughout_of_weight_eq_zero hweight, ih]
  | group hopening hclosing _ _ ihInner ihRest =>
      rw [List.cons_append, openThroughout_of_opening hopening, List.append_assoc, ihInner,
        List.cons_append, openThroughout_of_closing hclosing, ihRest]

/-! ## The ends of a range -/

/-- A pair of ends is an opening and a closing parenthesis. -/
theorem exists_of_enclosure_eq_pair {tokens inner : List Token}
    (hpair : enclosure tokens = .pair inner) :
    ∃ opening closing, opening.kind = .opening ∧ closing.kind = .closing ∧
      tokens = opening :: (inner ++ [closing]) := by
  cases tokens with
  | nil => simp [enclosure] at hpair
  | cons first rest =>
      by_cases hends : first.kind = .opening ∧ rest.getLast?.map Token.kind = some .closing
      · simp only [enclosure, if_pos hends] at hpair
        split at hpair <;> simp only [Enclosure.pair.injEq, reduceCtorEq] at hpair
        obtain ⟨hfirst, hlast⟩ := hends
        obtain ⟨closing, hlast, hclosing⟩ := Option.map_eq_some_iff.mp hlast
        refine ⟨first, closing, hfirst, hclosing, ?_⟩
        rw [← hpair, List.dropLast_append_getLast? closing hlast]
      · simp only [enclosure, if_neg hends, reduceCtorEq] at hpair

theorem enclosure_enclose {opening closing : Token} {inner : List Token}
    (hopening : opening.kind = .opening) (hclosing : closing.kind = .closing)
    (hinner : Balanced inner) : enclosure (opening :: (inner ++ [closing])) = .pair inner := by
  have hopen : openThroughout 1 inner = some 1 := by
    have hpass := openThroughout_append hinner 0 []
    rwa [List.append_nil] at hpass
  simp [enclosure, hopening, hclosing, hopen]

theorem enclosure_of_kind_ne_opening {first : Token} (hkind : first.kind ≠ .opening)
    (rest : List Token) : enclosure (first :: rest) = .bare := by
  simp [enclosure, hkind]

/-- A group with something after it is no pair of ends. -/
theorem enclosure_group_of_ne_nil {opening closing : Token} {inner rest : List Token}
    (hclosing : closing.kind = .closing) (hinner : Balanced inner) (hrest : rest ≠ []) :
    enclosure (opening :: (inner ++ closing :: rest)) = .bare := by
  have hdrop : (inner ++ closing :: rest).dropLast = inner ++ closing :: rest.dropLast := by
    rw [List.dropLast_append_of_ne_nil (by simp), List.dropLast_cons_of_ne_nil hrest]
  -- the group of the first token is closed before the last one is reached
  have hopen : openThroughout 1 (inner ++ closing :: rest.dropLast) = none := by
    rw [openThroughout_append hinner, openThroughout_one_of_closing hclosing]
  simp only [enclosure, hdrop, hopen, ite_self]

/-- A balanced range is bare, or a group of a balanced range. -/
theorem Balanced.bare_or_group {tokens : List Token} (hbalanced : Balanced tokens) :
    enclosure tokens = .bare ∨ ∃ opening inner closing, opening.kind = .opening ∧
      closing.kind = .closing ∧ Balanced inner ∧ tokens = opening :: (inner ++ [closing]) := by
  cases hbalanced with
  | empty => exact Or.inl rfl
  | single hweight _ =>
      exact Or.inl (enclosure_of_kind_ne_opening (weight_eq_zero_iff.mp hweight).1 _)
  | @group opening closing inner rest hopening hclosing hinner _ =>
      rcases eq_or_ne rest [] with rfl | hrest
      · exact Or.inr ⟨opening, inner, closing, hopening, hclosing, hinner, rfl⟩
      · exact Or.inl (enclosure_group_of_ne_nil hclosing hinner hrest)

/-! ## Taking the pairs away -/

theorem strip?_of_bare {tokens : List Token} (hbare : enclosure tokens = .bare) :
    strip? tokens = some tokens := by
  rw [strip?.eq_def]
  split <;> simp_all

theorem strip?_of_pair {tokens inner : List Token} (hpair : enclosure tokens = .pair inner) :
    strip? tokens = strip? inner := by
  rw [strip?.eq_def]
  split <;> simp_all

theorem strip?_of_torn {tokens : List Token} (htorn : enclosure tokens = .torn) :
    strip? tokens = none := by
  rw [strip?.eq_def]
  split <;> simp_all

/-- What is left when the pairs are taken away has no pair around it. -/
theorem enclosure_of_strip?_eq_some {tokens inner : List Token}
    (hstrip : strip? tokens = some inner) : enclosure inner = .bare := by
  fun_induction strip? tokens with
  | case1 tokens hbare =>
      obtain rfl := Option.some.inj hstrip
      exact hbare
  | case2 tokens next hpair ih => exact ih hstrip
  | case3 tokens htorn => simp at hstrip

/-- Taking the pairs away once takes all of them. -/
theorem strip?_of_strip?_eq_some {tokens inner : List Token}
    (hstrip : strip? tokens = some inner) : strip? inner = some inner :=
  strip?_of_bare (enclosure_of_strip?_eq_some hstrip)

/-- A pair around a balanced range changes nothing of what is left. -/
theorem strip?_enclose {opening closing : Token} {inner : List Token}
    (hopening : opening.kind = .opening) (hclosing : closing.kind = .closing)
    (hinner : Balanced inner) : strip? (opening :: (inner ++ [closing])) = strip? inner :=
  strip?_of_pair (enclosure_enclose hopening hclosing hinner)

/-- The first range is the second with some pairs of parentheses around it. -/
inductive Wraps : List Token → List Token → Prop
  | bare {tokens : List Token} : Wraps tokens tokens
  | pair {opening closing : Token} {tokens inner : List Token} (hopening : opening.kind = .opening)
      (hclosing : closing.kind = .closing) (hwraps : Wraps tokens inner) :
      Wraps (opening :: (tokens ++ [closing])) inner

theorem wraps_of_strip?_eq_some {tokens inner : List Token} (hstrip : strip? tokens = some inner) :
    Wraps tokens inner := by
  fun_induction strip? tokens with
  | case1 tokens hbare =>
      obtain rfl := Option.some.inj hstrip
      exact .bare
  | case2 tokens next hpair ih =>
      obtain ⟨opening, closing, hopening, hclosing, rfl⟩ := exists_of_enclosure_eq_pair hpair
      exact .pair hopening hclosing (ih hstrip)
  | case3 tokens htorn => simp at hstrip

/-- A balanced range is never torn, and what is left of it is balanced. -/
theorem Balanced.exists_strip?_eq_some {tokens : List Token} (hbalanced : Balanced tokens) :
    ∃ inner, strip? tokens = some inner ∧ Balanced inner := by
  fun_induction strip? tokens with
  | case1 tokens hbare => exact ⟨tokens, rfl, hbalanced⟩
  | case2 tokens next hpair ih =>
      rcases hbalanced.bare_or_group with hbare | ⟨opening, inner, closing, hopening, hclosing,
        hinner, rfl⟩
      · simp [hbare] at hpair
      · obtain rfl : inner = next := by
          simpa [enclosure_enclose hopening hclosing hinner] using hpair
        exact ih hinner
  | case3 tokens htorn =>
      rcases hbalanced.bare_or_group with hbare | ⟨opening, inner, closing, hopening, hclosing,
        hinner, rfl⟩
      · simp [hbare] at htorn
      · simp [enclosure_enclose hopening hclosing hinner] at htorn

theorem Balanced.of_strip?_eq_some {tokens inner : List Token} (hbalanced : Balanced tokens)
    (hstrip : strip? tokens = some inner) : Balanced inner := by
  obtain ⟨inner', hstrip', hinner'⟩ := hbalanced.exists_strip?_eq_some
  rw [hstrip', Option.some.injEq] at hstrip
  exact hstrip ▸ hinner'

/-- Induction along the pairs around a balanced range: a property holds of the range if
it holds of what is left and every pair around a balanced range keeps it. -/
theorem Balanced.strip_induction {motive : List Token → Prop} {tokens inner : List Token}
    (hbalanced : Balanced tokens) (hstrip : strip? tokens = some inner) (bare : motive inner)
    (enclose : ∀ opening closing inner, opening.kind = .opening → closing.kind = .closing →
      Balanced inner → motive inner → motive (opening :: (inner ++ [closing]))) :
    motive tokens := by
  fun_induction strip? tokens with
  | case1 tokens hbare => exact Option.some.inj hstrip ▸ bare
  | case2 tokens next hpair ih =>
      rcases hbalanced.bare_or_group with hbare | ⟨opening, inner, closing, hopening, hclosing,
        hinner, rfl⟩
      · simp [hbare] at hpair
      · obtain rfl : inner = next := by
          simpa [enclosure_enclose hopening hclosing hinner] using hpair
        exact enclose opening closing inner hopening hclosing hinner (ih hinner hstrip)
  | case3 tokens htorn => simp at hstrip

end Grouping

end Clausal
