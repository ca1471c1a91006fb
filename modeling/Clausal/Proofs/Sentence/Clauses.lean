import Clausal.Proofs.Sentence.Collapse

/-!
# Clauses and their collapse

A conjunction of clauses has groups at two levels, and either may have one operand only.
Its collapse has lost those groups: it is a conjunction of clauses only loosely, with a
literal in the place of a clause or a single clause in the place of the conjunction.  Of
the sentences that have nothing to collapse these are all (`exists_isClausal_collapse_eq`).
-/

namespace Clausal

namespace Sentence

/-- Whether the sentence is a clause, or a literal in the place of one. -/
def isLooseClause (sentence : Sentence) : Bool := sentence.isLiteral || sentence.isClause

/-- Whether the sentence is a conjunction of clauses in which any group of one operand may
be replaced by that operand. -/
def isLooselyClausal : Sentence → Bool
  | .group .and first others => (first :: others).all isLooseClause
  | sentence => sentence.isLooseClause

theorem isClause_eq_true_iff {sentence : Sentence} :
    sentence.isClause = true ↔ ∃ first others, sentence = .group .or first others ∧
      ∀ operand ∈ first :: others, operand.isLiteral = true := by
  match sentence with
  | .group .or first others => simp [isClause]
  | .group .and first others => simp [isClause]
  | .variable name => simp [isClause]
  | .negation operand => simp [isClause]

theorem isClausal_eq_true_iff {sentence : Sentence} :
    sentence.isClausal = true ↔ ∃ first others, sentence = .group .and first others ∧
      ∀ operand ∈ first :: others, operand.isClause = true := by
  match sentence with
  | .group .and first others => simp [isClausal]
  | .group .or first others => simp [isClausal]
  | .variable name => simp [isClausal]
  | .negation operand => simp [isClausal]

theorem collapse_of_isLiteral {sentence : Sentence} (hliteral : sentence.isLiteral = true) :
    sentence.collapse = sentence := by
  cases sentence with
  | «variable» name => rfl
  | negation operand =>
      cases operand with
      | «variable» name => rfl
      | negation | group => simp [isLiteral, isVariable] at hliteral
  | group => simp [isLiteral] at hliteral

/-- A group of several literals has nothing to collapse. -/
theorem collapse_group_of_isLiteral {joint : Connective} {first : Sentence}
    {others : List Sentence} (hliterals : ∀ operand ∈ first :: others, operand.isLiteral = true)
    (hnonempty : others ≠ []) :
    collapse (.group joint first others) = .group joint first others := by
  rw [List.forall_mem_cons] at hliterals
  have hothers : others.map collapse = others :=
    map_eq_self fun other hother => collapse_of_isLiteral (hliterals.2 other hother)
  rw [collapse_group_of_ne_nil _ _ hnonempty, collapse_of_isLiteral hliterals.1, hothers]

theorem isLooseClause_of_isLiteral {sentence : Sentence} (hliteral : sentence.isLiteral = true) :
    sentence.isLooseClause = true := by
  rw [isLooseClause, hliteral, Bool.true_or]

theorem isLooseClause_collapse {sentence : Sentence} (hloose : sentence.isLooseClause = true) :
    sentence.collapse.isLooseClause = true := by
  rw [isLooseClause, Bool.or_eq_true] at hloose
  rcases hloose with hliteral | hclause
  · rw [collapse_of_isLiteral hliteral]
    exact isLooseClause_of_isLiteral hliteral
  · obtain ⟨first, others, rfl, hliterals⟩ := isClause_eq_true_iff.mp hclause
    rcases eq_or_ne others [] with rfl | hnonempty
    · have hfirst := hliterals first List.mem_cons_self
      rw [collapse_group_nil, collapse_of_isLiteral hfirst]
      exact isLooseClause_of_isLiteral hfirst
    · rw [collapse_group_of_isLiteral hliterals hnonempty, isLooseClause, hclause, Bool.or_true]

theorem isLooselyClausal_of_isLooseClause {sentence : Sentence}
    (hloose : sentence.isLooseClause = true) : sentence.isLooselyClausal = true := by
  match sentence with
  | .group .and first others => simp [isLooseClause, isLiteral, isClause] at hloose
  | .group .or first others => exact hloose
  | .variable name => exact hloose
  | .negation operand => exact hloose

theorem isLooselyClausal_collapse {sentence : Sentence} (hclausal : sentence.isClausal = true) :
    sentence.collapse.isLooselyClausal = true := by
  obtain ⟨first, others, rfl, hclauses⟩ := isClausal_eq_true_iff.mp hclausal
  have hloose : ∀ operand ∈ first :: others, operand.collapse.isLooseClause = true := by
    intro operand hoperand
    exact isLooseClause_collapse (by rw [isLooseClause, hclauses operand hoperand, Bool.or_true])
  rcases eq_or_ne others [] with rfl | hnonempty
  · rw [collapse_group_nil]
    exact isLooselyClausal_of_isLooseClause (hloose first List.mem_cons_self)
  · rw [collapse_group_of_ne_nil _ _ hnonempty, isLooselyClausal, ← List.map_cons, List.all_map,
      List.all_eq_true]
    exact hloose

/-- A clause in place of a literal. -/
def asClause (sentence : Sentence) : Sentence :=
  if sentence.isClause then sentence else .disjunction sentence []

theorem isClause_asClause {sentence : Sentence} (hloose : sentence.isLooseClause = true) :
    sentence.asClause.isClause = true := by
  unfold asClause
  split
  · next hclause => exact hclause
  · next hclause =>
      rw [isLooseClause, Bool.or_eq_true] at hloose
      have hliteral := hloose.resolve_right hclause
      simpa [isClause] using hliteral

theorem collapse_asClause (sentence : Sentence) :
    sentence.asClause.collapse = sentence.collapse := by
  unfold asClause
  split
  · rfl
  · exact collapse_group_nil .or sentence

/-- What is loosely a conjunction of clauses, with nothing to collapse, is the collapse of
one. -/
theorem exists_isClausal_collapse_eq {sentence : Sentence}
    (hloose : sentence.isLooselyClausal = true) (hcollapse : sentence.collapse = sentence) :
    ∃ clausal : Sentence, clausal.isClausal = true ∧ clausal.collapse = sentence := by
  by_cases hclause : sentence.isLooseClause = true
  · refine ⟨.conjunction sentence.asClause [], ?_, ?_⟩
    · simpa [isClausal] using isClause_asClause hclause
    · rw [collapse_group_nil, collapse_asClause, hcollapse]
  · match sentence with
    | .group .and first others =>
        rw [isLooselyClausal, List.all_eq_true] at hloose
        have hnonempty : others ≠ [] := by
          rintro rfl
          have hfirst := isLooseClause_collapse (hloose first List.mem_cons_self)
          rw [collapse_group_nil] at hcollapse
          exact hclause (hcollapse ▸ hfirst)
        refine ⟨.conjunction first.asClause (others.map asClause), ?_, ?_⟩
        · rw [isClausal, ← List.map_cons, List.all_map, List.all_eq_true]
          exact fun operand hoperand => isClause_asClause (hloose operand hoperand)
        · have hmap : (others.map asClause).map collapse = others.map collapse := by
            rw [List.map_map]
            exact List.map_congr_left fun other _ => collapse_asClause other
          have hmapped : others.map asClause ≠ [] := by simpa using hnonempty
          rw [collapse_group_of_ne_nil _ _ hmapped, hmap, collapse_asClause,
            ← collapse_group_of_ne_nil _ _ hnonempty, hcollapse]
    | .group .or first others => exact absurd hloose hclause
    | .variable name => exact absurd hloose hclause
    | .negation operand => exact absurd hloose hclause

end Sentence

end Clausal
