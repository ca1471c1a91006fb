import Clausal.Proofs.Reading.Blanks
import Clausal.Proofs.Sentence.Stacking

/-!
# Layouts of a sentence

A conjunction is laid out in lines by a rule of its own, which puts the texts of its conjuncts
together again.  These texts do not depend on the layout, and neither does what stands between
them, up to blanks.  So the two layouts of any sentence have the same symbols, and whatever can be
read from the one can be read from the other.

The lines of a stacked text show the conjuncts one by one (`format_stacked`).  A sentence that is
no conjunction has one line in either layout.
-/

namespace Clausal

namespace Sentence

/-! ## Lines -/

/-- The text of a sentence in one line, in parentheses if it is a group. -/
def enclosedText (sentence : Sentence) : String :=
  if sentence.isGroup then "(" ++ sentence.format .inline ++ ")" else sentence.format .inline

/-- The lines of the stacked text. -/
def lines (sentence : Sentence) : List String :=
  ((sentence.format .stacked).toList.splitOn '\n').map String.ofList

theorem toList_format_inline (sentence : Sentence) :
    (sentence.format .inline).toList = sentence.render := String.toList_ofList

theorem toList_format_stacked (sentence : Sentence) :
    (sentence.format .stacked).toList = sentence.renderStacked := String.toList_ofList

theorem toList_enclosedText (sentence : Sentence) :
    sentence.enclosedText.toList = sentence.renderOperand := by
  rw [enclosedText, renderOperand, asOperand]
  split
  · simp [toList_format_inline]
  · exact sentence.toList_format_inline

theorem ofList_renderOperand (sentence : Sentence) :
    String.ofList sentence.renderOperand = sentence.enclosedText := by
  rw [← toList_enclosedText, String.ofList_toList]

theorem newline_not_mem_render (sentence : Sentence) : '\n' ∉ sentence.render := by
  have hoperand := sentence.newline_not_mem_renderOperand
  rw [renderOperand, asOperand] at hoperand
  split at hoperand
  · exact fun hmem => hoperand (List.mem_cons_of_mem _ (List.mem_append_left _ hmem))
  · exact hoperand

/-- The conjuncts stand in lines of their own, all but the last with a ` ^` behind them. -/
theorem lines_conjunction {first last : Sentence} {others front : List Sentence}
    (hfront : first :: others = front ++ [last]) :
    (conjunction first others).lines =
      front.map (fun conjunct => conjunct.enclosedText ++ " ^") ++ [last.enclosedText] := by
  rw [lines, toList_format_stacked, splitOn_renderStacked_conjunction hfront,
    List.map_append, List.map_map, List.map_singleton, ofList_renderOperand]
  congr 1
  refine List.map_congr_left fun conjunct _ => ?_
  rw [Function.comp_apply, String.ofList_append, ofList_renderOperand]
  rfl

theorem lines_of_ne_conjunction {sentence : Sentence}
    (hroot : ∀ first others, sentence ≠ conjunction first others) :
    sentence.lines = [sentence.format .inline] := by
  have hstacked : sentence.renderStacked = sentence.render := by
    match sentence with
    | .group .and first others => exact absurd rfl (hroot first others)
    | .group .or first others => rfl
    | .variable name => rfl
    | .negation operand => rfl
  rw [lines, toList_format_stacked, hstacked,
    List.splitOn_eq_singleton sentence.newline_not_mem_render]
  rfl

/-! ## The main statement -/

/-- **Layouts of a sentence.**  The stacked text of a sentence and its text in one line are the
same without blanks.  That of a conjunction has as many lines as there are conjuncts: in order, the
text of each, in parentheses if it is a group, and all but the last with a ` ^` behind it.  That of
any other sentence has one line.  Either mode reads both texts as the same sentence, or refuses
both with a fault of one family. -/
theorem format_stacked (sentence : Sentence) :
    withoutBlanks (sentence.format .stacked) = withoutBlanks (sentence.format .inline) ∧
    (∀ first others, sentence = conjunction first others →
      sentence.lines.length = (first :: others).length ∧
      ∃ front last, first :: others = front ++ [last] ∧ sentence.lines =
        front.map (fun conjunct => conjunct.enclosedText ++ " ^") ++ [last.enclosedText]) ∧
    ((∀ first others, sentence ≠ conjunction first others) →
      sentence.lines = [sentence.format .inline]) ∧
    ∀ mode : Reading.Mode, (mode.read (sentence.format .stacked)).outcome =
      (mode.read (sentence.format .inline)).outcome := by
  have hsymbols : Token.symbols (sentence.format .stacked).toList =
      Token.symbols (sentence.format .inline).toList := by
    rw [symbols_format, symbols_format]
  refine ⟨hsymbols, ?_, lines_of_ne_conjunction,
    fun mode => mode.outcome_read_of_symbols_eq hsymbols⟩
  rintro first others rfl
  have hfront := (List.dropLast_append_getLast (List.cons_ne_nil first others)).symm
  have hlines := lines_conjunction hfront
  refine ⟨?_, _, _, hfront, hlines⟩
  rw [hlines]
  simp

/-- A negated conjunction and a disjunction of one operand, whose name is no ASCII letter. -/
theorem format_stacked_two_lines :
    ∃ sentence : Sentence, sentence.format .stacked = "~(A ^ B) ^\n(é)" ∧
      sentence.format .inline = "~(A ^ B) ^ (é)" ∧ sentence.lines.length = 2 ∧
      ∀ mode : Reading.Mode, (mode.read "~(A ^ B) ^\n(é)").outcome =
        (mode.read "~(A ^ B) ^ (é)").outcome := by
  let sentence : Sentence := conjunction
    (.negation (conjunction (.variable ⟨'A', by decide, by decide⟩)
      [.variable ⟨'B', by decide, by decide⟩]))
    [disjunction (.variable ⟨'é', by decide, by decide⟩) []]
  have hstacked : sentence.format .stacked = "~(A ^ B) ^\n(é)" := by decide +kernel
  have hinline : sentence.format .inline = "~(A ^ B) ^ (é)" := by decide +kernel
  obtain ⟨-, hlines, -, hread⟩ := format_stacked sentence
  rw [hstacked, hinline] at hread
  exact ⟨sentence, hstacked, hinline, (hlines _ _ rfl).1, hread⟩

end Sentence

end Clausal
