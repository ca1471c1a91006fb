import Clausal.Proofs.Reading.Faults

/-!
# Nested readings end

`Reading.sentence`, `Reading.disjunction` and `Reading.operand` call one another on ranges that
need not be shorter: a conjunct in parentheses goes from the second function to the third and back
to the first as it is.  What falls is the number of connectives, but only where a range is cut, and
at most three calls lie between two cuts.

So three calls for each connective and three more are enough (`endsWithin_budget`).  This counts
the connectives at any depth, and nothing is asked of the parentheses: neither how many there are
nor whether they match.
-/

namespace Clausal

namespace Reading

open Grouping

variable {text : List Char}

/-! ## The fault of a spent budget -/

theorem strip_ne_budgetSpent (tokens : List Token) :
    (strip tokens).result ≠ .error .budgetSpent := by
  unfold strip
  split <;> simp

theorem atom_ne_budgetSpent (negated : Bool) (tokens : List Token) :
    (atom text negated tokens).result ≠ .error .budgetSpent := by
  unfold atom
  split
  · split <;> simp [settle]
  · simp

theorem literal_ne_budgetSpent (tokens context : List Token) :
    (literal text tokens context).result ≠ .error .budgetSpent := by
  intro hspent
  unfold literal at hspent
  split at hspent
  · simp at hspent
  · split at hspent
    · rcases bind_eq_error_iff.mp hspent with hstrip | ⟨negated, -, hnegated⟩
      · exact strip_ne_budgetSpent _ hstrip
      · split at hnegated
        · simp at hnegated
        · exact atom_ne_budgetSpent _ _ hnegated
    · exact atom_ne_budgetSpent _ _ hspent

/-- By induction from the operands of a range to the range: only they could have spent the
budget. -/
theorem atLevel_ne_budgetSpent (text : List Char) (level : Connective)
    (tokens context : List Token) :
    (atLevel text level tokens context).result ≠ .error .budgetSpent := by
  induction level, tokens using level_induction generalizing context with
  | step level tokens ih =>
      intro hspent
      cases hstrip : strip? tokens with
      | none => simp [atLevel_of_torn hstrip] at hspent
      | some inner =>
          cases hjoint : jointAt level inner with
          | none =>
              rw [atLevel_of_jointAt_eq_none hstrip hjoint, map_eq_error_iff] at hspent
              exact literal_ne_budgetSpent _ _ hspent
          | some joint =>
              rw [atLevel_of_jointAt_eq_some hstrip hjoint, joined_eq_error_iff] at hspent
              obtain ⟨front, part, back, hparts, -, hpart⟩ := hspent
              have hmem : part ∈ allOperands joint inner := by simp [hparts]
              exact ih inner joint hstrip hjoint part hmem inner hpart

/-! ## The main statement -/

/-- Calls that take a budget come to an end within a number of nested ones: with a sentence or a
fault, but not that of a spent budget, and more budget changes nothing. -/
structure EndsWithin (enough : Nat) (call : Nat → Reading Sentence) : Prop where
  ends : (∃ sentence, (call enough).result = .ok sentence) ∨
    ∃ fault, (call enough).result = .error fault ∧ fault ≠ .budgetSpent
  stable : ∀ available, enough ≤ available → call available = call enough

theorem endsWithin_of_eq_atLevel {level : Connective} {tokens context : List Token}
    {call : Nat → Reading Sentence}
    (hcall : ∀ available, budget tokens ≤ available →
      call available = atLevel text level tokens context) :
    EndsWithin (budget tokens) call where
  ends := by
    rw [hcall (budget tokens) (Nat.le_refl _)]
    cases hresult : (atLevel text level tokens context).result with
    | ok sentence => exact Or.inl ⟨sentence, rfl⟩
    | error fault =>
        refine Or.inr ⟨fault, rfl, ?_⟩
        rintro rfl
        exact atLevel_ne_budgetSpent text level tokens context hresult
  stable available havailable := (hcall available havailable).trans (hcall _ (Nat.le_refl _)).symm

/-- **Nested readings end.**  Any range, balanced or not, is read to the end by each of the three
functions within three nested calls for each of its connectives and three more. -/
theorem endsWithin_budget (text : List Char) (tokens context : List Token) :
    EndsWithin (3 * (connectiveCount tokens + 1))
        (fun available => sentence text available tokens context) ∧
      EndsWithin (3 * (connectiveCount tokens + 1))
        (fun available => disjunction text available tokens context) ∧
      EndsWithin (3 * (connectiveCount tokens + 1))
        (fun available => operand text available tokens context) :=
  ⟨endsWithin_of_eq_atLevel fun _ => sentence_eq_atLevel text tokens context,
    endsWithin_of_eq_atLevel fun _ => disjunction_eq_atLevel text tokens context,
    endsWithin_of_eq_atLevel fun _ => operand_eq_atLevel text tokens context⟩

/-- A disjunct that is a conjunction in parentheses takes five of these six calls. -/
example : let tokens := Token.scan "((A ^ B))"
    (disjunction [] 4 tokens []).result = .error .budgetSpent ∧
      (disjunction [] 5 tokens []).Succeeds := by
  refine ⟨by decide +kernel, ?_⟩
  exact ⟨.conjunction (.variable ⟨'A', by decide, by decide⟩)
    [.variable ⟨'B', by decide, by decide⟩], by decide +kernel⟩

end Reading

end Clausal
