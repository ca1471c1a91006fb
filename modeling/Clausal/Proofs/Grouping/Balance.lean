import Clausal.Grouping
import Mathlib.Data.List.Basic

/-!
# Balanced ranges

`Grouping.imbalance` finds the parenthesis at fault by keeping the positions of
the open groups.  The proofs about readings work instead with the shape of a range
that has no fault: `Balanced` is built from the left, either from a token that is
no parenthesis or from a whole group.  `imbalance_eq_none_iff` says that this is the
same thing.

What a reading does with a balanced range never looks at positions, so most facts
here come with a version that speaks of the symbols only.  A balanced range leaves as many
groups open as it found (`Balanced.depth_eq_zero`).
-/

namespace Clausal

namespace Grouping

/-! ## Tokens and their weights -/

theorem weight_of_opening {token : Token} (hkind : token.kind = .opening) : weight token = 1 := by
  simp [weight, hkind]

theorem weight_of_closing {token : Token} (hkind : token.kind = .closing) : weight token = -1 := by
  simp [weight, hkind]

theorem weight_of_connective {token : Token} {joint : Connective}
    (hkind : token.kind = .connective joint) : weight token = 0 := by
  simp [weight, hkind]

/-- The tokens of no weight are those that are no parenthesis. -/
theorem weight_eq_zero_iff {token : Token} :
    weight token = 0 ↔ token.kind ≠ .opening ∧ token.kind ≠ .closing := by
  unfold weight
  split <;> simp_all

/-! ## The shape of a balanced range -/

/-- Every parenthesis of the range has its partner in the range. -/
inductive Balanced : List Token → Prop
  | empty : Balanced []
  | single {token : Token} {rest : List Token} (hweight : weight token = 0)
      (hrest : Balanced rest) : Balanced (token :: rest)
  | group {opening closing : Token} {inner rest : List Token}
      (hopening : opening.kind = .opening) (hclosing : closing.kind = .closing)
      (hinner : Balanced inner) (hrest : Balanced rest) :
      Balanced (opening :: (inner ++ closing :: rest))

theorem Balanced.append {first second : List Token} (hfirst : Balanced first)
    (hsecond : Balanced second) : Balanced (first ++ second) := by
  induction hfirst with
  | empty => exact hsecond
  | single hweight _ ih => exact .single hweight ih
  | group hopening hclosing hinner _ _ ih =>
      rw [List.cons_append, List.append_assoc, List.cons_append]
      exact .group hopening hclosing hinner ih

/-- A token that is no parenthesis does not count for the balance. -/
theorem Balanced.of_cons {token : Token} {rest : List Token} (hweight : weight token = 0)
    (hbalanced : Balanced (token :: rest)) : Balanced rest := by
  cases hbalanced with
  | single _ hrest => exact hrest
  | group hopening _ _ _ => exact absurd hopening (weight_eq_zero_iff.mp hweight).1

/-- A balanced range in parentheses is balanced. -/
theorem Balanced.enclose {opening closing : Token} {inner : List Token}
    (hopening : opening.kind = .opening) (hclosing : closing.kind = .closing)
    (hinner : Balanced inner) : Balanced (opening :: (inner ++ [closing])) :=
  .group hopening hclosing hinner .empty

/-- Whether a range is balanced depends on its symbols only. -/
theorem Balanced.of_symbols_eq {tokens other : List Token} (hbalanced : Balanced tokens)
    (hsymbols : tokens.map Token.symbol = other.map Token.symbol) : Balanced other := by
  induction hbalanced generalizing other with
  | empty =>
      have hother : other = [] := by simpa using hsymbols
      rw [hother]
      exact .empty
  | @single token rest hweight _ ih =>
      obtain ⟨token', rest', rfl, hsymbol, hrest⟩ := List.map_eq_cons_iff.mp hsymbols.symm
      refine .single ?_ (ih hrest.symm)
      rw [weight_eq_zero_iff] at hweight ⊢
      simpa only [Token.kind, hsymbol] using hweight
  | @group opening closing inner rest hopening hclosing _ _ ihInner ihRest =>
      obtain ⟨opening', more, rfl, hopening', hmore⟩ := List.map_eq_cons_iff.mp hsymbols.symm
      rw [List.map_append, List.map_cons] at hmore
      obtain ⟨inner', tail, rfl, hinner, htail⟩ := List.map_eq_append_iff.mp hmore
      obtain ⟨closing', rest', rfl, hclosing', hrest⟩ := List.map_eq_cons_iff.mp htail
      refine .group ?_ ?_ (ihInner hinner.symm) (ihRest hrest.symm)
      · rw [Token.kind, hopening', ← Token.kind, hopening]
      · rw [Token.kind, hclosing', ← Token.kind, hclosing]

theorem balanced_congr {tokens other : List Token}
    (hsymbols : tokens.map Token.symbol = other.map Token.symbol) :
    Balanced tokens ↔ Balanced other :=
  ⟨fun hbalanced => hbalanced.of_symbols_eq hsymbols,
    fun hbalanced => hbalanced.of_symbols_eq hsymbols.symm⟩

/-! ## Depth -/

@[simp] theorem depth_nil : depth [] = 0 := rfl

theorem depth_cons (token : Token) (rest : List Token) :
    depth (token :: rest) = weight token + depth rest := rfl

theorem depth_append (first second : List Token) :
    depth (first ++ second) = depth first + depth second := by
  induction first with
  | nil => simp
  | cons token rest ih =>
      rw [List.cons_append, depth_cons, depth_cons, ih]
      omega

theorem Balanced.depth_eq_zero {tokens : List Token} (hbalanced : Balanced tokens) :
    depth tokens = 0 := by
  induction hbalanced with
  | empty => rfl
  | single hweight _ ih =>
      rw [depth_cons, hweight, ih]
      rfl
  | group hopening hclosing _ _ ihInner ihRest =>
      rw [depth_cons, depth_append, depth_cons, weight_of_opening hopening,
        weight_of_closing hclosing, ihInner, ihRest]
      rfl

/-! ## The search for a fault -/

theorem imbalanceWithin_of_opening {token : Token} (hkind : token.kind = .opening)
    (opened : List Nat) (rest : List Token) :
    imbalanceWithin opened (token :: rest) = imbalanceWithin (token.position :: opened) rest := by
  cases opened <;> simp [imbalanceWithin, hkind]

theorem imbalanceWithin_of_closing {token : Token} (hkind : token.kind = .closing)
    (innermost : Nat) (outer : List Nat) (rest : List Token) :
    imbalanceWithin (innermost :: outer) (token :: rest) = imbalanceWithin outer rest := by
  simp [imbalanceWithin, hkind]

theorem imbalanceWithin_of_weight_eq_zero {token : Token} (hweight : weight token = 0)
    (opened : List Nat) (rest : List Token) :
    imbalanceWithin opened (token :: rest) = imbalanceWithin opened rest := by
  obtain ⟨hopening, hclosing⟩ := weight_eq_zero_iff.mp hweight
  rw [imbalanceWithin.eq_def]
  split <;> simp_all

/-- The search passes a balanced range without a trace. -/
theorem imbalanceWithin_append {inner : List Token} (hinner : Balanced inner) (opened : List Nat)
    (rest : List Token) :
    imbalanceWithin opened (inner ++ rest) = imbalanceWithin opened rest := by
  induction hinner generalizing opened rest with
  | empty => rfl
  | single hweight _ ih =>
      rw [List.cons_append, imbalanceWithin_of_weight_eq_zero hweight, ih]
  | group hopening hclosing _ _ ihInner ihRest =>
      rw [List.cons_append, imbalanceWithin_of_opening hopening, List.append_assoc, ihInner,
        List.cons_append, imbalanceWithin_of_closing hclosing, ihRest]

/-- The range closes the given number of groups opened before it, and is balanced
between those closing parentheses. -/
def Closes : Nat → List Token → Prop
  | 0, tokens => Balanced tokens
  | count + 1, tokens => ∃ inner closing rest, tokens = inner ++ closing :: rest ∧
      Balanced inner ∧ closing.kind = .closing ∧ Closes count rest

private theorem Closes.append_left {count : Nat} {first tokens : List Token}
    (hfirst : Balanced first) (hcloses : Closes count tokens) : Closes count (first ++ tokens) := by
  cases count with
  | zero => exact hfirst.append hcloses
  | succ count =>
      obtain ⟨inner, closing, rest, rfl, hinner, hclosing, hrest⟩ := hcloses
      exact ⟨first ++ inner, closing, rest, by rw [List.append_assoc], hfirst.append hinner,
        hclosing, hrest⟩

/-- Without a fault every open group is closed, the innermost first. -/
theorem closes_of_imbalanceWithin_eq_none (opened : List Nat) (tokens : List Token)
    (hnone : imbalanceWithin opened tokens = none) : Closes opened.length tokens := by
  induction tokens generalizing opened with
  | nil =>
      cases opened with
      | nil => exact .empty
      | cons innermost outer => simp [imbalanceWithin] at hnone
  | cons token rest ih =>
      by_cases hopening : token.kind = .opening
      · rw [imbalanceWithin_of_opening hopening] at hnone
        -- the rest closes one group more than it is left to close: the one opened here
        obtain ⟨inner, closing, rest, rfl, hinner, hclosing, hrest⟩ := ih _ hnone
        have hgroup : Balanced (token :: (inner ++ [closing])) := .enclose hopening hclosing hinner
        have hall := hrest.append_left hgroup
        rwa [List.cons_append, List.append_assoc, List.singleton_append] at hall
      by_cases hclosing : token.kind = .closing
      · cases opened with
        | nil => simp [imbalanceWithin, hclosing] at hnone
        | cons innermost outer =>
            rw [imbalanceWithin_of_closing hclosing] at hnone
            exact ⟨[], token, rest, rfl, .empty, hclosing, ih _ hnone⟩
      · have hweight := weight_eq_zero_iff.mpr ⟨hopening, hclosing⟩
        rw [imbalanceWithin_of_weight_eq_zero hweight] at hnone
        exact (ih _ hnone).append_left (.single hweight .empty)

/-- A range without a fault is a balanced one. -/
theorem imbalance_eq_none_iff {tokens : List Token} :
    imbalance tokens = none ↔ Balanced tokens := by
  constructor
  · intro hnone
    exact closes_of_imbalanceWithin_eq_none [] tokens hnone
  · intro hbalanced
    have hpass := imbalanceWithin_append hbalanced [] []
    rwa [List.append_nil] at hpass

theorem exists_imbalance_eq_some {tokens : List Token} (hunbalanced : ¬ Balanced tokens) :
    ∃ fault, imbalance tokens = some fault :=
  Option.ne_none_iff_exists'.mp (mt imbalance_eq_none_iff.mp hunbalanced)

end Grouping

end Clausal
