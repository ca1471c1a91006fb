import Clausal.Proofs.Instance.ReadBack

/-!
# Conjuncts in lines

The text of a conjunction with one conjunct a line has a line break behind each `^` between
two of them.  No text of a sentence in one line holds a line break, so the lines are the
texts of the conjuncts, all but the last with a ` ^` behind them
(`splitOn_renderStacked_conjunction`).

Where the conjuncts are clauses, there is no `^` but between two of them.  The lines then
come from the text in one line by breaking it at each ` ^ ` (`renderStacked_of_isClausal`).
-/

namespace Clausal

namespace Sentence

/-! ## Symbols that a text does not hold -/

section Symbols

variable {c : Char}

theorem not_mem_renderOperand_variable (hascii : c.isAlpha = false) (hbefore : c.toNat < 0xaa)
    (name : Letter) : c ∉ (Sentence.variable name).renderOperand := by
  change c ∉ [name.char]
  rw [List.mem_singleton]
  exact (name.char_ne hascii hbefore).symm

variable (hmarks : c ∉ ['(', negationSymbol, ')'])
include hmarks

theorem not_mem_renderOperand_negation {operand : Sentence} (hoperand : c ∉ operand.renderOperand) :
    c ∉ operand.negation.renderOperand := by
  change c ∉ negationSymbol :: operand.renderOperand
  simp only [List.mem_cons, List.not_mem_nil, or_false, not_or] at hmarks ⊢
  exact ⟨hmarks.2.1, hoperand⟩

theorem not_mem_renderOperand_group {joint : Connective} {first : Sentence}
    {others : List Sentence} (hseparator : c ∉ joint.separator)
    (hoperands : ∀ operand ∈ first :: others, c ∉ operand.renderOperand) :
    c ∉ (group joint first others).renderOperand := by
  have hrender : c ∉ render (group joint first others) := by
    rw [render_group]
    exact Text.not_mem_intercalate hseparator (List.forall_mem_map.mpr hoperands)
  simp only [List.mem_cons, List.not_mem_nil, or_false, not_or] at hmarks
  simp [renderOperand, asOperand, isGroup, hmarks, hrender]

/-- Only symbols with a meaning, blanks and letters are in the text of a sentence. -/
theorem not_mem_renderOperand (hascii : c.isAlpha = false) (hbefore : c.toNat < 0xaa)
    (hseparator : ∀ joint : Connective, c ∉ joint.separator) (sentence : Sentence) :
    c ∉ sentence.renderOperand := by
  induction sentence using operand_induction with
  | «variable» name => exact not_mem_renderOperand_variable hascii hbefore name
  | negation operand ih => exact not_mem_renderOperand_negation hmarks ih
  | group joint first others ihFirst ihOthers =>
      exact not_mem_renderOperand_group hmarks (hseparator joint)
        (List.forall_mem_cons.mpr ⟨ihFirst, ihOthers⟩)

end Symbols

theorem newline_not_mem_renderOperand (sentence : Sentence) : '\n' ∉ sentence.renderOperand :=
  sentence.not_mem_renderOperand (by decide) (by decide) (by decide) fun joint => by
    cases joint <;> decide

/-- A clause holds no `^`. -/
theorem and_not_mem_renderOperand_of_isClause {clause : Sentence}
    (hclause : clause.isClause = true) : Connective.and.symbol ∉ clause.renderOperand := by
  obtain ⟨first, others, rfl, hliterals⟩ := isClause_eq_true_iff.mp hclause
  refine not_mem_renderOperand_group (by decide) (by decide) fun operand hoperand => ?_
  have hvariable : ∀ name, Connective.and.symbol ∉ (Sentence.variable name).renderOperand :=
    not_mem_renderOperand_variable (by decide) (by decide)
  obtain ⟨⟨negated, name⟩, rfl⟩ := exists_eq_ofLiteral (hliterals operand hoperand)
  cases negated with
  | false => exact hvariable name
  | true => exact not_mem_renderOperand_negation (by decide) (hvariable name)

/-! ## The lines of a conjunction -/

theorem renderStacked_conjunction (first : Sentence) (others : List Sentence) :
    renderStacked (.conjunction first others) =
      lineSeparator.intercalate ((first :: others).map renderOperand) := by
  rw [renderStacked, List.map_cons, Text.intercalate_cons_eq_append_flatMap, List.flatMap_map]

/-- The lines are the texts of the conjuncts, all but the last with a ` ^` behind them. -/
theorem splitOn_renderStacked_conjunction {first last : Sentence} {others front : List Sentence}
    (hfront : first :: others = front ++ [last]) :
    (renderStacked (.conjunction first others)).splitOn '\n' =
      front.map (·.renderOperand ++ [' ', Connective.and.symbol]) ++ [last.renderOperand] := by
  have hlines : ∀ text ∈ front.map renderOperand, '\n' ∉ text :=
    List.forall_mem_map.mpr fun conjunct _ => conjunct.newline_not_mem_renderOperand
  have hending : '\n' ∉ [' ', Connective.and.symbol] := by decide
  have hcut := Text.splitOn_intercalate_append hending hlines last.newline_not_mem_renderOperand
  rw [List.map_map] at hcut
  rw [renderStacked_conjunction, hfront, List.map_append, List.map_singleton]
  exact hcut

theorem length_splitOn_renderStacked_conjunction (first : Sentence) (others : List Sentence) :
    ((renderStacked (.conjunction first others)).splitOn '\n').length = others.length + 1 := by
  have hfront := (List.dropLast_append_getLast (List.cons_ne_nil first others)).symm
  rw [splitOn_renderStacked_conjunction hfront]
  simp

/-! ## The lines of a conjunction of clauses -/

/-- The text in one line is broken at each ` ^ `. -/
theorem renderStacked_of_isClausal {sentence : Sentence} (hclausal : sentence.isClausal = true) :
    sentence.renderStacked =
      Text.replaceAll Connective.and.separator lineSeparator sentence.render := by
  obtain ⟨first, others, rfl, hclauses⟩ := isClausal_eq_true_iff.mp hclausal
  have hconjuncts : ∀ text ∈ (first :: others).map renderOperand,
      Connective.and.symbol ∉ text :=
    List.forall_mem_map.mpr fun clause hclause =>
      and_not_mem_renderOperand_of_isClause (hclauses clause hclause)
  rw [renderStacked_conjunction, render_group, Connective.separator,
    Text.replaceAll_intercalate lineSeparator (by decide) hconjuncts]

/-- There are as many lines as clauses. -/
theorem length_splitOn_format_stacked {sentence : Sentence} (hclausal : sentence.isClausal = true) :
    ((sentence.format .stacked).toList.splitOn '\n').length = sentence.groupOperands.length := by
  obtain ⟨first, others, rfl, -⟩ := isClausal_eq_true_iff.mp hclausal
  rw [format, String.toList_ofList, length_splitOn_renderStacked_conjunction]
  rfl

end Sentence

end Clausal
