import Clausal.Proofs.Grouping.Parts

/-!
# Other positions

Where a token stands in its text plays no part in how ranges are grouped.  So every
operation of `Grouping` but the report of a fault commutes with a map of tokens
that keeps their symbols.  The map that forgets the positions is the one used most:
`unplaced` is a range of given symbols with no positions to speak of.
-/

namespace Clausal

namespace Token

/-- A map of tokens that keeps their symbols. -/
def KeepsSymbols (relabel : Token → Token) : Prop := ∀ token, (relabel token).symbol = token.symbol

/-- The token with its position forgotten. -/
def unplace (token : Token) : Token := ⟨token.symbol, 0⟩

theorem keepsSymbols_unplace : KeepsSymbols unplace := fun _ => rfl

variable {relabel : Token → Token}

theorem KeepsSymbols.kind_eq (hkeeps : KeepsSymbols relabel) (token : Token) :
    (relabel token).kind = token.kind := by
  rw [kind, hkeeps, ← kind]

/-- Tokens with the given symbols, all at the same place. -/
def unplaced (symbols : List Char) : List Token := symbols.map fun symbol => ⟨symbol, 0⟩

@[simp] theorem unplaced_nil : unplaced [] = [] := rfl

@[simp] theorem unplaced_cons (symbol : Char) (symbols : List Char) :
    unplaced (symbol :: symbols) = ⟨symbol, 0⟩ :: unplaced symbols := rfl

@[simp] theorem unplaced_append (first second : List Char) :
    unplaced (first ++ second) = unplaced first ++ unplaced second := by
  simp [unplaced]

theorem map_unplace (tokens : List Token) :
    tokens.map unplace = unplaced (tokens.map symbol) := by
  simp [unplaced, unplace, Function.comp_def]

@[simp] theorem map_symbol_unplaced (symbols : List Char) :
    (unplaced symbols).map symbol = symbols := by
  simp [unplaced, Function.comp_def]

end Token

namespace Grouping

variable {relabel : Token → Token} (hkeeps : Token.KeepsSymbols relabel)
include hkeeps

theorem weight_relabel (token : Token) : weight (relabel token) = weight token := by
  rw [weight, hkeeps.kind_eq, ← weight.eq_def]

/-! ## Enclosing pairs -/

theorem openThroughout_map (opened : Nat) (tokens : List Token) :
    openThroughout opened (tokens.map relabel) = openThroughout opened tokens := by
  induction tokens generalizing opened with
  | nil => rfl
  | cons token rest ih =>
      rw [List.map_cons, openThroughout, openThroughout, hkeeps.kind_eq, ih, ih, ih]

/-- The ends relate in the same way, around the range relabelled. -/
theorem enclosure_map (tokens : List Token) :
    enclosure (tokens.map relabel) =
      match enclosure tokens with
      | .bare => .bare
      | .pair inner => .pair (inner.map relabel)
      | .torn => .torn := by
  cases tokens with
  | nil => rfl
  | cons first rest =>
      have hlast : (rest.map relabel).getLast?.map Token.kind = rest.getLast?.map Token.kind := by
        rw [List.getLast?_map, Option.map_map]
        exact congrFun (congrArg Option.map (funext hkeeps.kind_eq)) _
      rw [List.map_cons, enclosure, enclosure, hkeeps.kind_eq, hlast, ← List.map_dropLast,
        openThroughout_map hkeeps]
      by_cases hends : first.kind = .opening ∧ rest.getLast?.map Token.kind = some .closing
      · rw [if_pos hends, if_pos hends]
        split <;> rfl
      · rw [if_neg hends, if_neg hends]

theorem strip?_map (tokens : List Token) :
    strip? (tokens.map relabel) = (strip? tokens).map (List.map relabel) := by
  fun_induction strip? tokens with
  | case1 tokens hbare =>
      exact strip?_of_bare (by rw [enclosure_map hkeeps, hbare])
  | case2 tokens inner hpair ih =>
      rw [strip?_of_pair (by rw [enclosure_map hkeeps, hpair]), ih]
  | case3 tokens htorn =>
      exact strip?_of_torn (by rw [enclosure_map hkeeps, htorn])

/-! ## Parts -/

theorem splitWithin_map (separates : Token.Kind → Bool) (opened : Int) (tokens : List Token) :
    splitWithin separates opened (tokens.map relabel) =
      ((splitWithin separates opened tokens).1.map relabel,
        (splitWithin separates opened tokens).2.map (List.map relabel)) := by
  induction tokens generalizing opened with
  | nil => rfl
  | cons token rest ih =>
      by_cases hcut : weight token = 0 ∧ opened = 0 ∧ separates token.kind = true
      · have hcut' : weight (relabel token) = 0 ∧ opened = 0 ∧
            separates (relabel token).kind = true := by
          rwa [weight_relabel hkeeps, hkeeps.kind_eq]
        rw [List.map_cons, splitWithin_cons_of_cut hcut, splitWithin_cons_of_cut hcut', ih]
        rfl
      · have hcut' : ¬ (weight (relabel token) = 0 ∧ opened = 0 ∧
            separates (relabel token).kind = true) := by
          rwa [weight_relabel hkeeps, hkeeps.kind_eq]
        rw [List.map_cons, splitWithin_cons_of_not_cut hcut, splitWithin_cons_of_not_cut hcut', ih,
          weight_relabel hkeeps]
        rfl

theorem split_map (separates : Token.Kind → Bool) (tokens : List Token) :
    split separates (tokens.map relabel) =
      ((split separates tokens).1.map relabel, (split separates tokens).2.map (List.map relabel)) :=
  splitWithin_map hkeeps separates 0 tokens

theorem operands_map (joint : Connective) (tokens : List Token) :
    operands joint (tokens.map relabel) =
      ((operands joint tokens).1.map relabel,
        (operands joint tokens).2.map (List.map relabel)) :=
  split_map hkeeps _ tokens

theorem joins_map (joint : Connective) (tokens : List Token) :
    joins joint (tokens.map relabel) = joins joint tokens := by
  rw [joins, operands_map hkeeps, List.isEmpty_map, ← joins]

end Grouping

end Clausal
