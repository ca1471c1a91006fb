import Clausal.Proofs.Grouping.Parts

/-!
# What stands around a range

Two views of a balanced range in the middle of a longer one.

* From the outside: `Surrounds before after` says that what stands before and after a place
  makes whole groups with balanced ranges between them.  It holds of all places of a
  balanced range (`surrounds_of_balanced_append`), so a fact about the middle is carried
  outwards group by group.
* At one level: between balanced surroundings a connective cuts outside of the middle only,
  so all operands but one do not depend on the middle (`exists_cutAround`).

The operations of `Grouping` count the groups that are open; `StandsOutside` is the same
notion for a connective without the cutting.
-/

namespace Clausal

namespace Grouping

variable {joint : Connective}

/-! ## Connectives outside every group -/

/-- The connective stands in the range outside every group. -/
def StandsOutside (joint : Connective) (tokens : List Token) : Prop :=
  ∃ before separator after, tokens = before ++ separator :: after ∧ depth before = 0 ∧
    separator.kind = .connective joint

theorem isCut_iff_standsOutside {tokens : List Token} :
    IsCut (· = .connective joint) tokens ↔ StandsOutside joint tokens := by
  unfold StandsOutside IsCut IsSeparator
  simp only [decide_eq_true_eq]
  refine exists_congr fun before => exists_congr fun separator => exists_congr fun after => ?_
  refine and_congr_right fun _ => and_congr_right fun _ => ?_
  exact and_iff_right_of_imp weight_of_connective

/-- A connective joins a range if it stands outside every group of it. -/
theorem joins_eq_true_iff_standsOutside {tokens : List Token} :
    joins joint tokens = true ↔ StandsOutside joint tokens := by
  rw [joins_eq_true_iff, operands, Ne, split_snd_eq_nil_iff, not_not, isCut_iff_standsOutside]

theorem joins_eq_false_iff_not_standsOutside {tokens : List Token} :
    joins joint tokens = false ↔ ¬ StandsOutside joint tokens := by
  rw [← joins_eq_true_iff_standsOutside, Bool.not_eq_true]

/-! ## The ends of a balanced range -/

/-- Of two balanced ranges in a row the ends are no pair. -/
theorem Balanced.enclosure_append {first second : List Token} (hfirst : Balanced first)
    (hfirstNonempty : first ≠ []) (hsecondNonempty : second ≠ []) :
    enclosure (first ++ second) = .bare := by
  cases hfirst with
  | empty => exact absurd rfl hfirstNonempty
  | single hweight _ => exact enclosure_of_kind_ne_opening (weight_eq_zero_iff.mp hweight).1 _
  | group hopening hclosing hinner _ =>
      rw [List.cons_append, List.append_assoc, List.cons_append]
      apply enclosure_group_of_ne_nil hclosing hinner
      exact List.append_ne_nil_of_right_ne_nil _ hsecondNonempty

/-- A balanced range does not end with an opening parenthesis. -/
theorem Balanced.kind_ne_opening_of_mem_getLast? {tokens : List Token}
    (hbalanced : Balanced tokens) {token : Token} (htoken : token ∈ tokens.getLast?) :
    token.kind ≠ .opening := by
  induction hbalanced with
  | empty => simp at htoken
  | @single first rest hweight _ ih =>
      rcases eq_or_ne rest [] with rfl | hrest
      · obtain rfl : first = token := by simpa using htoken
        exact (weight_eq_zero_iff.mp hweight).1
      · rw [List.getLast?_cons_of_ne_nil hrest] at htoken
        exact ih htoken
  | @group opening closing inner rest _ hclosing _ _ _ ih =>
      rw [← List.cons_append, List.getLast?_append_of_ne_nil _ (List.cons_ne_nil _ _)] at htoken
      rcases eq_or_ne rest [] with rfl | hrest
      · obtain rfl : closing = token := by simpa using htoken
        simp [hclosing]
      · rw [List.getLast?_cons_of_ne_nil hrest] at htoken
        exact ih htoken

/-- A balanced range does not begin with a closing parenthesis. -/
theorem Balanced.kind_ne_closing_of_mem_head? {tokens : List Token} (hbalanced : Balanced tokens)
    {token : Token} (htoken : token ∈ tokens.head?) : token.kind ≠ .closing := by
  cases hbalanced with
  | empty => simp at htoken
  | @single first rest hweight _ =>
      obtain rfl : first = token := by simpa using htoken
      exact (weight_eq_zero_iff.mp hweight).2
  | @group opening closing inner rest hopening _ _ _ =>
      obtain rfl : opening = token := by simpa using htoken
      simp [hopening]

/-! ## Cutting around a range -/

theorem allOperands_append_of_not_joins {first : List Token} (hfirst : Balanced first)
    (hjoins : joins joint first = false) (rest : List Token) :
    allOperands joint (first ++ rest) =
      (first ++ (operands joint rest).1) :: (operands joint rest).2 := by
  rw [allOperands, operands, split_append hfirst (operands_eq_self hjoins)]
  rfl

theorem allOperands_cons_of_kind_eq {separator : Token}
    (hkind : separator.kind = .connective joint) (rest : List Token) :
    allOperands joint (separator :: rest) = [] :: allOperands joint rest := by
  rw [allOperands, operands,
    split_cons_of_separates (weight_of_connective hkind) (decide_eq_true hkind)]
  rfl

theorem joins_cons_eq_false {token : Token} {rest : List Token} (hweight : weight token = 0)
    (hkind : token.kind ≠ .connective joint) (hrest : joins joint rest = false) :
    joins joint (token :: rest) = false := by
  rw [joins_eq_false_iff] at hrest ⊢
  rw [operands, split_cons_of_not_separates hweight (decide_eq_false hkind)]
  exact hrest

theorem joins_group_append {opening closing : Token} {inner : List Token}
    (hopening : opening.kind = .opening) (hclosing : closing.kind = .closing)
    (hinner : Balanced inner) (rest : List Token) :
    joins joint (opening :: (inner ++ closing :: rest)) = joins joint rest := by
  rw [joins, operands, split_group hopening hclosing hinner]
  rfl

/-- A connective cuts a balanced range nowhere, or for the last time at some place. -/
theorem Balanced.not_joins_or_exists_last (joint : Connective) {tokens : List Token}
    (hbalanced : Balanced tokens) :
    joins joint tokens = false ∨ ∃ front separator last, tokens = front ++ separator :: last ∧
      Balanced front ∧ separator.kind = .connective joint ∧ Balanced last ∧
        joins joint last = false := by
  induction hbalanced with
  | empty => exact Or.inl rfl
  | @single token rest hweight hrest ih =>
      rcases ih with huncut | ⟨front, separator, last, rfl, hfront, hlast⟩
      · by_cases hkind : token.kind = .connective joint
        · exact Or.inr ⟨[], token, rest, rfl, .empty, hkind, hrest, huncut⟩
        · exact Or.inl (joins_cons_eq_false hweight hkind huncut)
      · exact Or.inr ⟨token :: front, separator, last, rfl, .single hweight hfront, hlast⟩
  | @group opening closing inner rest hopening hclosing hinner _ _ ih =>
      rcases ih with huncut | ⟨front, separator, last, rfl, hfront, hlast⟩
      · rw [← joins_group_append hopening hclosing hinner] at huncut
        exact Or.inl huncut
      · refine Or.inr ⟨opening :: (inner ++ closing :: front), separator, last, by simp, ?_, hlast⟩
        exact .group hopening hclosing hinner hfront

/-- Cutting what a connective joins is cutting the two sides. -/
theorem Balanced.allOperands_append_separator {front : List Token} (hfront : Balanced front)
    {separator : Token} (hkind : separator.kind = .connective joint) (rest : List Token) :
    allOperands joint (front ++ separator :: rest) =
      allOperands joint front ++ allOperands joint rest := by
  induction hfront with
  | empty => exact allOperands_cons_of_kind_eq hkind rest
  | @single token tail hweight _ ih =>
      unfold allOperands operands at ih ⊢
      rw [List.cons_append, List.cons.injEq] at ih
      rw [List.cons_append]
      by_cases hcuts : token.kind = .connective joint
      · rw [split_cons_of_separates hweight (decide_eq_true hcuts),
          split_cons_of_separates hweight (decide_eq_true hcuts), ih.1, ih.2]
        rfl
      · rw [split_cons_of_not_separates hweight (decide_eq_false hcuts),
          split_cons_of_not_separates hweight (decide_eq_false hcuts), ih.1, ih.2]
        rfl
  | @group opening closing inner tail hopening hclosing hinner _ _ ih =>
      unfold allOperands operands at ih ⊢
      rw [List.cons_append, List.cons.injEq] at ih
      rw [List.cons_append, List.append_assoc, List.cons_append,
        split_group hopening hclosing hinner, split_group hopening hclosing hinner, ih.1, ih.2]
      rfl

/-- The first operand of any range is what the range begins with. -/
theorem operands_fst_isPrefix (joint : Connective) (tokens : List Token) :
    (operands joint tokens).1 <+: tokens := by
  obtain ⟨others, -, -, hjoin⟩ :=
    exists_rejoin_split (fun kind => decide (kind = .connective joint)) tokens
  exact ⟨_, hjoin.symm⟩

/-- Cutting at a connective between the given surroundings: the operands `init` and `others`
lie outside of any middle, and the one that holds the middle has `last` before it and `first`
after it. -/
structure CutAround (joint : Connective) (before after : List Token)
    (init : List (List Token)) (last first : List Token) (others : List (List Token)) : Prop where
  init_balanced : ∀ part ∈ init, Balanced part
  last_balanced : Balanced last
  last_not_joins : joins joint last = false
  last_isSuffix : last <:+ before
  first_balanced : Balanced first
  first_not_joins : joins joint first = false
  first_isPrefix : first <+: after
  others_balanced : ∀ part ∈ others, Balanced part
  allOperands_eq {middle : List Token} (hmiddle : Balanced middle)
    (hjoins : joins joint middle = false) :
    allOperands joint (before ++ (middle ++ after)) =
      init ++ (last ++ (middle ++ first)) :: others

theorem exists_cutAround (joint : Connective) {before after : List Token}
    (hbefore : Balanced before) (hafter : Balanced after) :
    ∃ init last first others, CutAround joint before after init last first others := by
  have hfirst : (operands joint after).1 ∈ allOperands joint after := List.mem_cons_self
  have hothers : ∀ part ∈ (operands joint after).2, Balanced part := by
    intro part hpart
    exact hafter.of_mem_allOperands (List.mem_cons_of_mem _ hpart)
  -- after the last cut before the middle, the middle and the rest are cut as one
  have hcut : ∀ last, Balanced last → joins joint last = false → ∀ middle, Balanced middle →
      joins joint middle = false → allOperands joint (last ++ (middle ++ after)) =
        (last ++ (middle ++ (operands joint after).1)) :: (operands joint after).2 := by
    intro last hlast huncut middle hmiddle hjoins
    have hrest := allOperands_append_of_not_joins hmiddle hjoins after
    rw [allOperands, List.cons.injEq] at hrest
    rw [allOperands_append_of_not_joins hlast huncut, hrest.1, hrest.2]
  rcases hbefore.not_joins_or_exists_last joint with huncut | ⟨front, separator, last, rfl, hfront,
    hkind, hlast, huncut⟩
  · refine ⟨[], before, (operands joint after).1, (operands joint after).2, ?_⟩
    exact
      { init_balanced := by simp
        last_balanced := hbefore
        last_not_joins := huncut
        last_isSuffix := List.suffix_rfl
        first_balanced := hafter.of_mem_allOperands hfirst
        first_not_joins := not_joins_of_mem_allOperands hfirst
        first_isPrefix := operands_fst_isPrefix joint after
        others_balanced := hothers
        allOperands_eq := fun {middle} hmiddle hjoins =>
          hcut before hbefore huncut middle hmiddle hjoins }
  · refine ⟨allOperands joint front, last, (operands joint after).1, (operands joint after).2, ?_⟩
    exact
      { init_balanced := fun part hpart => hfront.of_mem_allOperands hpart
        last_balanced := hlast
        last_not_joins := huncut
        last_isSuffix := ⟨front ++ [separator], by simp⟩
        first_balanced := hafter.of_mem_allOperands hfirst
        first_not_joins := not_joins_of_mem_allOperands hfirst
        first_isPrefix := operands_fst_isPrefix joint after
        others_balanced := hothers
        allOperands_eq := fun {middle} hmiddle hjoins => by
          rw [List.append_assoc, List.cons_append, hfront.allOperands_append_separator hkind,
            hcut last hlast huncut middle hmiddle hjoins] }

/-! ## Places in a balanced range -/

/-- What stands before a place and after it: balanced ranges, with the same groups open
around the place. -/
inductive Surrounds : List Token → List Token → Prop
  | level {before after : List Token} (hbefore : Balanced before) (hafter : Balanced after) :
      Surrounds before after
  | group {front before after back : List Token} {opening closing : Token}
      (hfront : Balanced front) (hopening : opening.kind = .opening)
      (hsurrounds : Surrounds before after) (hclosing : closing.kind = .closing)
      (hback : Balanced back) :
      Surrounds (front ++ opening :: before) (after ++ closing :: back)

theorem Surrounds.append_left {first before after : List Token} (hfirst : Balanced first)
    (hsurrounds : Surrounds before after) : Surrounds (first ++ before) after := by
  cases hsurrounds with
  | level hbefore hafter => exact .level (hfirst.append hbefore) hafter
  | group hfront hopening hsurrounds hclosing hback =>
      rw [← List.append_assoc]
      exact .group (hfirst.append hfront) hopening hsurrounds hclosing hback

/-- Any place of a balanced range is surrounded in this way. -/
theorem surrounds_of_balanced_append {before after : List Token}
    (hbalanced : Balanced (before ++ after)) : Surrounds before after := by
  generalize htokens : before ++ after = tokens at hbalanced
  induction hbalanced generalizing before after with
  | empty =>
      obtain ⟨rfl, rfl⟩ := List.append_eq_nil_iff.mp htokens
      exact .level .empty .empty
  | @single token rest hweight hrest ih =>
      cases before with
      | nil =>
          rw [List.nil_append] at htokens
          exact .level .empty (htokens ▸ .single hweight hrest)
      | cons first before =>
          rw [List.cons_append, List.cons.injEq] at htokens
          obtain ⟨rfl, htokens⟩ := htokens
          exact (ih htokens).append_left (.single hweight .empty)
  | @group opening closing inner rest hopening hclosing hinner hrest ihInner ihRest =>
      cases before with
      | nil =>
          rw [List.nil_append] at htokens
          exact .level .empty (htokens ▸ .group hopening hclosing hinner hrest)
      | cons first before =>
          rw [List.cons_append, List.cons.injEq] at htokens
          obtain ⟨rfl, htokens⟩ := htokens
          -- the place is inside of the first group or behind it
          rcases List.append_eq_append_iff.mp htokens with ⟨inside, hinside, rfl⟩ |
            ⟨behind, rfl, hbehind⟩
          · exact .group .empty hopening (ihInner hinside.symm) hclosing hrest
          · cases behind with
            | nil =>
                rw [List.nil_append] at hbehind
                rw [List.append_nil, ← hbehind]
                exact .group .empty hopening (ihInner (List.append_nil inner)) hclosing hrest
            | cons last behind =>
                rw [List.cons_append, List.cons.injEq] at hbehind
                obtain ⟨rfl, hbehind⟩ := hbehind
                have hgroup : Balanced (first :: (inner ++ [closing])) :=
                  .enclose hopening hclosing hinner
                have hplace := (ihRest hbehind.symm).append_left hgroup
                simpa using hplace

private theorem imbalanceWithin_append_congr {rest rest' : List Token}
    (hrest : ∀ opened, imbalanceWithin opened rest = imbalanceWithin opened rest')
    (front : List Token) (opened : List Nat) :
    imbalanceWithin opened (front ++ rest) = imbalanceWithin opened (front ++ rest') := by
  induction front generalizing opened with
  | nil => exact hrest opened
  | cons token front ih =>
      rw [List.cons_append, List.cons_append]
      by_cases hopening : token.kind = .opening
      · rw [imbalanceWithin_of_opening hopening, imbalanceWithin_of_opening hopening, ih]
      by_cases hclosing : token.kind = .closing
      · cases opened with
        | nil => simp [imbalanceWithin, hclosing]
        | cons innermost outer =>
            rw [imbalanceWithin_of_closing hclosing, imbalanceWithin_of_closing hclosing, ih]
      · have hweight := weight_eq_zero_iff.mpr ⟨hopening, hclosing⟩
        rw [imbalanceWithin_of_weight_eq_zero hweight, imbalanceWithin_of_weight_eq_zero hweight,
          ih]

/-- A balanced range does not count for the balance of what it stands in. -/
theorem balanced_append_iff {middle : List Token} (hmiddle : Balanced middle)
    (before after : List Token) :
    Balanced (before ++ (middle ++ after)) ↔ Balanced (before ++ after) := by
  have hpass : ∀ opened, imbalanceWithin opened (middle ++ after) = imbalanceWithin opened after :=
    fun opened => imbalanceWithin_append hmiddle opened after
  rw [← imbalance_eq_none_iff, ← imbalance_eq_none_iff, imbalance, imbalance,
    imbalanceWithin_append_congr hpass]

end Grouping

end Clausal
