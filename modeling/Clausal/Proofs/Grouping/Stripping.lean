import Clausal.Proofs.Grouping.Mismatch
import Clausal.Proofs.Grouping.Padding
import Clausal.Reading.Basic

/-!
# What is stripped

`Grouping.enclosure` decides by counting open groups whether the ends of a range are partners.
The count leaves out the last token, so it finds a pair if one group is open before that token
and has been since the first; then the range between the ends is balanced
(`enclosure_eq_pair_iff`), also where nothing is known of the whole range.

So what `strip?` takes away are pairs of partners, one around the other (`Nests`), and it takes
all there are (`Nests.le_of_enclosure_eq_bare`).  A range that it refuses is not balanced.
-/

namespace Clausal

namespace Grouping

/-! ## Partners at the ends -/

/-- The groups around a range stay open along it if and only if it closes no more than it opens
itself. -/
theorem openThroughout_eq_some_iff {opened left : Nat} {tokens : List Token} :
    openThroughout (opened + 1) tokens = some left ↔
      StaysWithin opened tokens ∧ (left : Int) = opened + 1 + depth tokens := by
  induction tokens generalizing opened with
  | nil =>
      rw [openThroughout, Option.some.injEq, staysWithin_nil, depth_nil]
      omega
  | cons token rest ih =>
      rw [staysWithin_cons, depth_cons]
      by_cases hopening : token.kind = .opening
      · rw [openThroughout_of_opening hopening, ih, weight_of_opening hopening]
        push_cast
        constructor
        · rintro ⟨hstays, hleft⟩
          exact ⟨⟨by omega, hstays⟩, by omega⟩
        · rintro ⟨⟨-, hstays⟩, hleft⟩
          exact ⟨hstays, by omega⟩
      by_cases hclosing : token.kind = .closing
      · rw [weight_of_closing hclosing]
        cases opened with
        | zero =>
            rw [openThroughout_one_of_closing hclosing]
            refine iff_of_false (by simp) fun hstays => ?_
            exact absurd hstays.1.2.nonneg (by decide)
        | succ opened =>
            rw [openThroughout_of_closing hclosing, ih]
            push_cast
            rw [Int.add_neg_cancel_right]
            constructor
            · rintro ⟨hstays, hleft⟩
              exact ⟨⟨by omega, hstays⟩, by omega⟩
            · rintro ⟨⟨-, hstays⟩, hleft⟩
              exact ⟨hstays, by omega⟩
      · have hweight := weight_eq_zero_iff.mpr ⟨hopening, hclosing⟩
        rw [openThroughout_of_weight_eq_zero hweight, ih, hweight, Int.add_zero, Int.zero_add]
        exact and_congr_left fun _ => (and_iff_right_of_imp StaysWithin.nonneg).symm

/-- What leaves the one group around it open, and no other, is balanced. -/
theorem balanced_of_openThroughout_eq_one {tokens : List Token}
    (hopen : openThroughout 1 tokens = some 1) : Balanced tokens := by
  obtain ⟨hstays, hdepth⟩ := openThroughout_eq_some_iff.mp hopen
  rw [depth_eq_openings_sub_closings] at hdepth
  exact balanced_iff_counts.mpr ⟨not_overdraws_iff_staysWithin.mpr hstays, by omega⟩

/-- The ends of a range are found to be a pair if and only if they are partners. -/
theorem enclosure_eq_pair_iff {tokens inner : List Token} :
    enclosure tokens = .pair inner ↔ Encloses inner tokens ∧ Balanced inner := by
  constructor
  · intro hpair
    obtain ⟨opening, closing, hopening, hclosing, rfl⟩ := exists_of_enclosure_eq_pair hpair
    refine ⟨.pair hopening hclosing, balanced_of_openThroughout_eq_one ?_⟩
    simp only [enclosure, hopening, List.getLast?_concat, Option.map_some, hclosing, and_self,
      if_true, List.dropLast_concat] at hpair
    split at hpair
    · exact absurd hpair (by simp)
    · assumption
    · exact absurd hpair (by simp)
  · rintro ⟨hencloses, hinner⟩
    exact hencloses.enclosure_eq hinner

theorem Encloses.inner_eq {inner tokens : List Token} (hencloses : Encloses inner tokens) :
    inner = tokens.tail.dropLast := by
  cases hencloses
  simp

/-! ## Pair by pair -/

/-- The first range is the second inside a number of pairs of partners, one around the other. -/
inductive Nests : Nat → List Token → List Token → Prop
  | bare {tokens : List Token} : Nests 0 tokens tokens
  | pair {count : Nat} {tokens inner rest : List Token} (hencloses : Encloses inner tokens)
      (hinner : Balanced inner) (hnests : Nests count inner rest) : Nests (count + 1) tokens rest

namespace Nests

variable {count : Nat} {tokens rest : List Token}

/-- The pairs are a row of opening parentheses and a row of as many closing ones. -/
theorem exists_rows (hnests : Nests count tokens rest) :
    ∃ opened closed, tokens = opened ++ rest ++ closed ∧
      opened.length = count ∧ closed.length = count ∧
      (∀ token ∈ opened, token.kind = .opening) ∧ ∀ token ∈ closed, token.kind = .closing := by
  induction hnests with
  | bare => exact ⟨[], [], by simp⟩
  | pair hencloses _ _ ih =>
      obtain ⟨opened, closed, rfl, hopened, hclosed, hopenings, hclosings⟩ := ih
      obtain @⟨opening, closing, hopening, hclosing⟩ := hencloses
      refine ⟨opening :: opened, closed ++ [closing], by simp, by simp [hopened],
        by simp [hclosed], ?_, ?_⟩
      · exact List.forall_mem_cons.mpr ⟨hopening, hopenings⟩
      · exact List.forall_mem_append.mpr ⟨hclosings, List.forall_mem_singleton.mpr hclosing⟩

/-- No more pairs stand around a range than around what no pair encloses. -/
theorem le_of_enclosure_eq_bare {count' : Nat} {rest' : List Token}
    (hnests : Nests count tokens rest) (hbare : enclosure rest = .bare)
    (hnests' : Nests count' tokens rest') : count' ≤ count := by
  induction hnests generalizing count' with
  | bare =>
      cases hnests' with
      | bare => exact le_rfl
      | pair hencloses hinner _ =>
          rw [hencloses.enclosure_eq hinner] at hbare
          exact absurd hbare (by simp)
  | pair hencloses _ _ ih =>
      cases hnests' with
      | bare => exact Nat.zero_le _
      | pair hencloses' _ hnests' =>
          rw [hencloses'.inner_eq, ← hencloses.inner_eq] at hnests'
          exact Nat.succ_le_succ (ih hbare hnests')

end Nests

theorem exists_nests_of_strip?_eq_some {tokens rest : List Token}
    (hstrip : strip? tokens = some rest) : ∃ count, Nests count tokens rest := by
  fun_induction strip? tokens with
  | case1 tokens hbare =>
      obtain rfl := Option.some.inj hstrip
      exact ⟨0, .bare⟩
  | case2 tokens inner hpair ih =>
      obtain ⟨hencloses, hinner⟩ := enclosure_eq_pair_iff.mp hpair
      obtain ⟨count, hnests⟩ := ih hstrip
      exact ⟨count + 1, .pair hencloses hinner hnests⟩
  | case3 tokens htorn => simp at hstrip

/-- **What is stripped.**  What is left of any range is the range without a row of opening
parentheses and a row of as many closing ones, each of them the partner of its counterpart.  The
ends of what is left are no partners, and it is left as it is if it is stripped again.  Of a
balanced range something is always left and is balanced, all pairs of partners around it are
taken away, and one more pair makes no difference.  A range is refused only if it is not
balanced. -/
theorem strip?_takes_pairs (tokens : List Token) :
    (∀ rest, strip? tokens = some rest →
      (∃ count, Nests count tokens rest ∧ ∃ opened closed, tokens = opened ++ rest ++ closed ∧
        opened.length = count ∧ closed.length = count ∧
        (∀ token ∈ opened, token.kind = .opening) ∧ ∀ token ∈ closed, token.kind = .closing) ∧
      (¬ ∃ inner, Encloses inner rest ∧ Balanced inner) ∧ strip? rest = some rest) ∧
    (Balanced tokens → ∃ count rest, strip? tokens = some rest ∧ Balanced rest ∧
      Nests count tokens rest ∧
      (∀ count' rest', Nests count' tokens rest' → count' ≤ count) ∧
      ∀ grouped, Encloses tokens grouped → strip? grouped = strip? tokens) ∧
    ∀ fault, (Reading.strip tokens).result = .error fault →
      fault.kind = .parenthesisMismatch ∧ ¬ Balanced tokens := by
  refine ⟨fun rest hstrip => ?_, fun hbalanced => ?_, fun fault hfault => ?_⟩
  · obtain ⟨count, hnests⟩ := exists_nests_of_strip?_eq_some hstrip
    refine ⟨⟨count, hnests, hnests.exists_rows⟩, ?_, strip?_of_strip?_eq_some hstrip⟩
    rintro ⟨inner, hpartners⟩
    have hpair := enclosure_eq_pair_iff.mpr hpartners
    rw [enclosure_of_strip?_eq_some hstrip] at hpair
    exact absurd hpair (by simp)
  · obtain ⟨rest, hstrip, hrest⟩ := hbalanced.exists_strip?_eq_some
    obtain ⟨count, hnests⟩ := exists_nests_of_strip?_eq_some hstrip
    exact ⟨count, rest, hstrip, hrest, hnests,
      fun _ _ => hnests.le_of_enclosure_eq_bare (enclosure_of_strip?_eq_some hstrip),
      fun _ hencloses => hencloses.strip?_eq hbalanced⟩
  · unfold Reading.strip at hfault
    split at hfault
    · exact absurd hfault (by simp)
    next htorn =>
      obtain rfl : ReadError.tornGroup = fault := by simpa using hfault
      refine ⟨rfl, fun hbalanced => ?_⟩
      obtain ⟨rest, hstrip, -⟩ := hbalanced.exists_strip?_eq_some
      rw [htorn] at hstrip
      exact absurd hstrip (by simp)

/-- Of the three parentheses in front two are taken away: the partner of the third is not last. -/
example : strip? (Token.scan "(((A) v (B)))") = some (Token.scan "  (A) v (B)") := by
  decide +kernel

end Grouping

end Clausal
