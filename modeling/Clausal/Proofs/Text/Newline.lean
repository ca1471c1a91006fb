import Clausal.Files
import Clausal.Proofs.Text.Separators
import Clausal.Proofs.Reading.Verdict

/-!
# Folded line ends

Folding the line ends of a text replaces every carriage return with a line feed behind it by
a line feed, and then every carriage return that is left (`foldNewlines_eq_replaceAll`).  It
is done in one pass from left to right, which comes to the same: no pair overlaps another, and
a line feed that is put in place of a pair is not looked at again.

A folded text has no carriage return, so folding leaves exactly the texts without one as they
are (`foldNewlines_eq_self_iff`).  Its symbols are those of the text.
-/

namespace Clausal.Text

/-! ## Replacing one symbol -/

/-- Nothing is replaced where the old text does not begin. -/
theorem replaceAll_cons_of_not_leading {old : List Char} {c : Char} {rest : List Char}
    (hleading : ¬ old <+: c :: rest) (new : List Char) :
    replaceAll old new (c :: rest) = c :: replaceAll old new rest := by
  rw [replaceAll, replaceFrom, if_neg (by simpa using hleading), ← replaceAll]

/-- Replacing one symbol by another is done symbol by symbol. -/
theorem replaceAll_singleton (old new : Char) (text : List Char) :
    replaceAll [old] [new] text = text.map fun c => if c = old then new else c := by
  induction text with
  | nil => rfl
  | cons c rest ih =>
      rw [List.map_cons, ← ih]
      by_cases hold : c = old
      · subst hold
        rw [if_pos rfl]
        exact replaceAll_append_self (List.cons_ne_nil c []) [new] rest
      · rw [if_neg hold]
        exact replaceAll_cons_of_not_leading (by simpa using Ne.symm hold) [new]

/-! ## Folding -/

/-- First the pairs are replaced, then the carriage returns that are left. -/
theorem foldNewlines_eq_replaceAll (text : List Char) :
    foldNewlines text = replaceAll ['\r'] ['\n'] (replaceAll ['\r', '\n'] ['\n'] text) := by
  rw [replaceAll_singleton]
  fun_induction foldNewlines text with
  | case1 => rfl
  | case2 rest ih =>
      have hpair : replaceAll ['\r', '\n'] ['\n'] ('\r' :: '\n' :: rest) =
          '\n' :: replaceAll ['\r', '\n'] ['\n'] rest :=
        replaceAll_append_self (List.cons_ne_nil '\r' ['\n']) ['\n'] rest
      rw [hpair, ih, List.map_cons, if_neg (by decide)]
  | case3 c rest hpair ih =>
      have hleading : ¬ ['\r', '\n'] <+: c :: rest := by
        rintro ⟨others, hothers⟩
        rw [List.cons_append, List.cons_append, List.cons_eq_cons] at hothers
        exact hpair others hothers.1.symm hothers.2.symm
      rw [replaceAll_cons_of_not_leading hleading, List.map_cons, ih]

theorem not_mem_foldNewlines (text : List Char) : '\r' ∉ foldNewlines text := by
  rw [foldNewlines_eq_replaceAll, replaceAll_singleton, List.mem_map]
  rintro ⟨c, -, hc⟩
  split at hc
  · cases hc
  · next hother => exact hother hc

/-- Only texts without a carriage return are left as they are. -/
theorem foldNewlines_eq_self_iff {text : List Char} : foldNewlines text = text ↔ '\r' ∉ text := by
  constructor
  · intro hfold
    rw [← hfold]
    exact not_mem_foldNewlines text
  · exact foldNewlines_eq_self

/-- Folding changes blanks only. -/
theorem symbols_foldNewlines (text : List Char) :
    Token.symbols (foldNewlines text) = Token.symbols text := by
  have hreturn : '\r'.isWhitespace = true := by decide
  have hfeed : '\n'.isWhitespace = true := by decide
  fun_induction foldNewlines text with
  | case1 => rfl
  | case2 rest ih =>
      rw [Token.symbols_cons_of_white hfeed, Token.symbols_cons_of_white hreturn,
        Token.symbols_cons_of_white hfeed, ih]
  | case3 c rest _ ih =>
      by_cases hc : c = '\r'
      · rw [if_pos hc, hc, Token.symbols_cons_of_white hfeed, Token.symbols_cons_of_white hreturn,
          ih]
      · rw [if_neg hc, ← List.singleton_append, Token.symbols_append, ih, ← Token.symbols_append,
          List.singleton_append]

end Clausal.Text
