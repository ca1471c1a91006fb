import Clausal.Proofs.Reading.Verdict
import Clausal.Proofs.Sentence.Collapse

/-!
# The symbols of a rendered sentence

`Sentence.spelling` is the text of a sentence as an operand without the blanks.  As a
range of tokens a spelling is closed: it is balanced, and no connective stands outside
its groups, because every group that is an operand stands in parentheses.  So the
spelling of a group is its operands' spellings joined by one connective, inside a pair
of parentheses, and `verdict_enclose` and `verdict_join` say how it is read.
-/

namespace Clausal

open Grouping Token

/-! ## Letters -/

/-- Only the ASCII letters stand before U+00AA. -/
theorem Text.le_toNat_of_isLetter {c : Char} (hletter : Text.isLetter c = true)
    (hascii : c.isAlpha = false) : 0xaa ≤ c.toNat := by
  rw [Text.isLetter, hascii, Bool.false_or, Text.inRanges, List.any_eq_true] at hletter
  obtain ⟨range, hrange, hbounds⟩ := hletter
  -- the table of the letters beyond ASCII begins there
  have hbegins : letterRanges.all (fun range => decide (0xaa ≤ range.1)) = true := by
    decide +kernel
  have hbegin := of_decide_eq_true (List.all_eq_true.mp hbegins range hrange)
  rw [Bool.and_eq_true, decide_eq_true_eq] at hbounds
  omega

namespace Letter

variable (name : Letter)

/-- A letter is no blank and none of the symbols with a meaning. -/
theorem char_ne {c : Char} (hascii : c.isAlpha = false) (hbefore : c.toNat < 0xaa) :
    name.char ≠ c := by
  rintro rfl
  have hafter := Text.le_toNat_of_isLetter name.isLetter hascii
  omega

theorem isWhitespace_eq_false : name.char.isWhitespace = false := by
  have hspace : name.char ≠ ' ' := name.char_ne rfl (by decide)
  have htab : name.char ≠ '\t' := name.char_ne rfl (by decide)
  have hreturn : name.char ≠ '\r' := name.char_ne rfl (by decide)
  have hnewline : name.char ≠ '\n' := name.char_ne rfl (by decide)
  simp [Char.isWhitespace, hspace, htab, hreturn, hnewline]

/-- A letter stands for a variable if it is an ASCII letter, else for nothing. -/
theorem kind_eq (position : Nat) :
    kind ⟨name.char, position⟩ = if name.char.isAlpha then .variable else .stray := by
  have hnot : name.char ≠ negationSymbol := name.char_ne rfl (by decide)
  have hand : name.char ≠ Connective.and.symbol := name.char_ne rfl (by decide)
  have hopening : name.char ≠ '(' := name.char_ne rfl (by decide)
  have hclosing : name.char ≠ ')' := name.char_ne rfl (by decide)
  rw [kind, Kind.ofSymbol, if_neg hnot, if_neg name.notConnective, if_neg hand, if_neg hopening,
    if_neg hclosing]

theorem letter?_eq (position : Nat) :
    letter? ⟨name.char, position⟩ = if name.char.isAlpha then some name else none := by
  cases hascii : name.char.isAlpha with
  | true => simp [letter?, hascii, name.notConnective]
  | false => simp [letter?, hascii]

theorem closed_singleton (position : Nat) : Closed [⟨name.char, position⟩] := by
  refine closed_nil.cons ?_ ?_
  · rw [weight, kind_eq]
    cases name.char.isAlpha <;> rfl
  · rw [kind_eq]
    cases name.char.isAlpha <;> simp

end Letter

namespace Sentence

/-! ## Spellings -/

/-- The symbols of a sentence as an operand. -/
def spelling (sentence : Sentence) : List Char := symbols sentence.renderOperand

theorem spelling_variable (name : Letter) : spelling (.variable name) = [name.char] := by
  change symbols [name.char] = [name.char]
  rw [symbols_cons_of_not_white name.isWhitespace_eq_false, symbols_nil]

theorem spelling_negation (operand : Sentence) :
    spelling (.negation operand) = negationSymbol :: operand.spelling := by
  change symbols (negationSymbol :: operand.asOperand operand.render) = _
  rw [symbols_cons_of_not_white rfl]
  rfl

theorem symbols_render_group (joint : Connective) (first : Sentence) (others : List Sentence) :
    symbols (render (.group joint first others)) =
      first.spelling ++ (others.map spelling).flatMap (joint.symbol :: ·) := by
  rw [render, renderOthers_eq_flatMap, symbols_append, symbols_flatMap, List.flatMap_map]
  simp only [symbols_append, symbols_separator, List.singleton_append]
  rfl

theorem spelling_group (joint : Connective) (first : Sentence) (others : List Sentence) :
    spelling (.group joint first others) =
      '(' :: (first.spelling ++ (others.map spelling).flatMap (joint.symbol :: ·) ++ [')']) := by
  change symbols ('(' :: (render (.group joint first others) ++ [')'])) = _
  rw [symbols_cons_of_not_white rfl, symbols_append, symbols_render_group]
  rfl

theorem spelling_ne_nil (sentence : Sentence) : sentence.spelling ≠ [] := by
  cases sentence with
  | «variable» name => simp [spelling_variable]
  | negation operand => simp [spelling_negation]
  | group joint first others => simp [spelling_group]

/-! ## Spellings as ranges -/

theorem closed_spelling (sentence : Sentence) : Closed (unplaced sentence.spelling) := by
  induction sentence using operand_induction with
  | «variable» name =>
      rw [spelling_variable]
      exact name.closed_singleton 0
  | negation operand ih =>
      rw [spelling_negation, unplaced_cons]
      exact ih.negation rfl
  | group joint first others ihFirst ihOthers =>
      rw [spelling_group]
      have hothers : ∀ part ∈ others.map spelling, Closed (unplaced part) :=
        List.forall_mem_map.mpr ihOthers
      exact Reading.closed_unplaced_enclose (Reading.balanced_join ihFirst hothers)

theorem closed_of_mem_map_spelling (sentences : List Sentence) :
    ∀ part ∈ sentences.map spelling, Closed (unplaced part) := by
  rw [List.forall_mem_map]
  intro sentence _
  exact sentence.closed_spelling

/-- The parentheses of a group as an operand belong to no group as a whole sentence. -/
theorem balanced_symbols_render (sentence : Sentence) :
    Balanced (unplaced (symbols sentence.render)) := by
  cases sentence with
  | «variable» name => exact (closed_spelling (.variable name)).balanced
  | negation operand => exact (closed_spelling (.negation operand)).balanced
  | group joint first others =>
      rw [symbols_render_group]
      exact Reading.balanced_join first.closed_spelling (closed_of_mem_map_spelling others)

/-- Nor do they change how the symbols are read. -/
theorem verdict_symbols_render (level : Connective) (sentence : Sentence) :
    Reading.verdict level (symbols sentence.render) = Reading.verdict level sentence.spelling := by
  cases sentence with
  | «variable» | negation => rfl
  | group joint first others =>
      have hbalanced := balanced_symbols_render (.group joint first others)
      rw [symbols_render_group] at hbalanced
      rw [spelling_group, symbols_render_group, Reading.verdict_enclose level hbalanced]

/-- A group of several operands is read operand by operand. -/
theorem verdict_spelling_group {joint : Connective} {first : Sentence} {others : List Sentence}
    (hnonempty : others ≠ []) (level : Connective) :
    Reading.verdict level (spelling (.group joint first others)) =
      (Reading.verdict joint.other first.spelling >>= fun head =>
        (others.mapM fun other => Reading.verdict joint.other other.spelling) >>= fun tail =>
          .ok (.group joint head tail)) := by
  have hothers := closed_of_mem_map_spelling others
  have hparts : others.map spelling ≠ [] := by simpa using hnonempty
  rw [← verdict_symbols_render, symbols_render_group,
    Reading.verdict_join first.closed_spelling hothers hparts, List.mapM_map]
  rfl

/-! ## Spellings without their enclosing pairs -/

/-- Nothing encloses the spelling of a variable or a negation. -/
theorem strip?_spelling_of_not_group {sentence : Sentence} (hgroup : sentence.isGroup = false) :
    strip? (unplaced sentence.spelling) = some (unplaced sentence.spelling) := by
  cases sentence with
  | «variable» name =>
      have hkind : (⟨name.char, 0⟩ : Token).kind ≠ .opening := by
        rw [name.kind_eq]
        split <;> simp
      rw [spelling_variable, unplaced_cons]
      exact strip?_of_bare (enclosure_of_kind_ne_opening hkind _)
  | negation operand =>
      rw [spelling_negation, unplaced_cons]
      exact strip?_of_bare (enclosure_of_kind_ne_opening (by decide) _)
  | group => simp [isGroup] at hgroup

/-- The parentheses of a group with one operand are those of the operand. -/
theorem strip?_spelling_group_nil (joint : Connective) (first : Sentence) :
    strip? (unplaced (spelling (.group joint first []))) = strip? (unplaced first.spelling) := by
  rw [spelling_group, List.map_nil, List.flatMap_nil, List.append_nil, unplaced_cons,
    unplaced_append]
  exact strip?_enclose rfl rfl first.closed_spelling.balanced

/-- What joins its operands stands outside every pair of the text of a group. -/
theorem strip?_symbols_render {joint : Connective} {first : Sentence} {others : List Sentence}
    (hnonempty : others ≠ []) :
    strip? (unplaced (symbols (render (.group joint first others)))) =
      some (unplaced (symbols (render (.group joint first others)))) := by
  have hparts : others.map spelling ≠ [] := by simpa using hnonempty
  have hjoins : joins joint (unplaced (symbols (render (.group joint first others)))) = true := by
    rw [symbols_render_group]
    exact Reading.joins_join first.closed_spelling (closed_of_mem_map_spelling others) joint hparts
  exact (balanced_symbols_render (.group joint first others)).strip?_of_joins hjoins

theorem strip?_spelling_group {joint : Connective} {first : Sentence} {others : List Sentence}
    (hnonempty : others ≠ []) :
    strip? (unplaced (spelling (.group joint first others))) =
      some (unplaced (symbols (render (.group joint first others)))) := by
  have hbalanced := balanced_symbols_render (.group joint first others)
  rw [← strip?_symbols_render hnonempty, spelling_group, ← symbols_render_group, unplaced_cons,
    unplaced_append]
  exact strip?_enclose rfl rfl hbalanced

end Sentence

end Clausal
