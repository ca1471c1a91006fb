import Mathlib.Data.List.Basic

/-!
# Texts with separators

What is put together with a separator can be taken apart by it again, if no part holds what
the separator is known by.

Two ways of doing so are of use.  Every occurrence of one text in another is replaced from
left to right, and no two of those that are replaced overlap; where no part holds the second
symbol of the separator, no occurrence begins inside of a part, and none but the separators
is replaced (`replaceAll_intercalate`).  And a text is cut into lines, or at another symbol:
where the separator ends with that symbol, each line but the last is a part with the rest of
the separator behind it (`splitOn_intercalate_append`).
-/

namespace Clausal

namespace Text

/-- Each part after the first stands behind a separator. -/
theorem intercalate_cons_eq_append_flatMap (separator first : List Char)
    (others : List (List Char)) :
    separator.intercalate (first :: others) = first ++ others.flatMap (separator ++ ·) := by
  induction others generalizing first with
  | nil => simp
  | cons second others ih =>
      rw [List.intercalate_cons_cons, ih, List.flatMap_cons, List.append_assoc, List.append_assoc]

theorem not_mem_intercalate {c : Char} {separator : List Char} (hseparator : c ∉ separator)
    {parts : List (List Char)} (hparts : ∀ part ∈ parts, c ∉ part) :
    c ∉ separator.intercalate parts := by
  cases parts with
  | nil => exact List.not_mem_nil
  | cons first others =>
      rw [List.forall_mem_cons] at hparts
      rw [intercalate_cons_eq_append_flatMap, List.mem_append, List.mem_flatMap, not_or]
      refine ⟨hparts.1, ?_⟩
      rintro ⟨part, hpart, hmem⟩
      rcases List.mem_append.mp hmem with hmem | hmem
      · exact hseparator hmem
      · exact hparts.2 part hpart hmem

/-! ## Replacing separators -/

/-- The text with every occurrence of an old text replaced by a new one, after the symbols to
pass over.  The old text is not empty. -/
def replaceFrom (old new : List Char) : Nat → List Char → List Char
  | _, [] => []
  | skip + 1, _ :: rest => replaceFrom old new skip rest
  | 0, c :: rest =>
    if old.isPrefixOf (c :: rest) then new ++ replaceFrom old new (old.length - 1) rest
    else c :: replaceFrom old new 0 rest

/-- The text with every occurrence of an old text replaced by a new one. -/
def replaceAll (old new text : List Char) : List Char := replaceFrom old new 0 text

example : replaceAll "aa".toList "b".toList "aaac".toList = "bac".toList := rfl

/-- What remains to be passed over is passed over. -/
theorem replaceFrom_append (old new : List Char) (passed rest : List Char) :
    replaceFrom old new passed.length (passed ++ rest) = replaceAll old new rest := by
  induction passed with
  | nil => rfl
  | cons c passed ih => exact ih

/-- An occurrence at the beginning is replaced. -/
theorem replaceAll_append_self {old : List Char} (hold : old ≠ []) (new rest : List Char) :
    replaceAll old new (old ++ rest) = new ++ replaceAll old new rest := by
  obtain ⟨c, others, rfl⟩ := List.exists_cons_of_ne_nil hold
  have hbegins : (c :: others).isPrefixOf (c :: (others ++ rest)) = true :=
    List.isPrefixOf_iff_prefix.mpr (List.prefix_append (c :: others) rest)
  rw [replaceAll, List.cons_append, replaceFrom, if_pos hbegins, List.length_cons,
    Nat.add_sub_cancel, replaceFrom_append]

section Parts

variable {first second : Char} {others : List Char} (new : List Char)

/-- No occurrence begins in a part without the second symbol of the old text. -/
theorem replaceAll_append_of_not_mem {part rest : List Char} (hpart : second ∉ part)
    (hrest : rest.head? ≠ some second) :
    replaceAll (first :: second :: others) new (part ++ rest) =
      part ++ replaceAll (first :: second :: others) new rest := by
  induction part with
  | nil => rfl
  | cons c part ih =>
      rw [List.mem_cons, not_or] at hpart
      have hnext : (part ++ rest).head? ≠ some second := by
        cases part with
        | nil => exact hrest
        | cons next part => simpa using (List.ne_of_not_mem_cons hpart.2).symm
      have hmisses : (first :: second :: others).isPrefixOf (c :: (part ++ rest)) = false := by
        cases hfollowing : part ++ rest with
        | nil => simp [List.isPrefixOf]
        | cons next following =>
            rw [hfollowing, List.head?_cons, ne_eq, Option.some_inj] at hnext
            simp [List.isPrefixOf, beq_eq_false_iff_ne.mpr (Ne.symm hnext)]
      rw [List.cons_append, replaceAll, replaceFrom, if_neg (by simp [hmisses]), ← replaceAll,
        ih hpart.2, List.cons_append]

/-- Nothing is replaced in a single part. -/
theorem replaceAll_eq_self {part : List Char} (hpart : second ∉ part) :
    replaceAll (first :: second :: others) new part = part := by
  calc replaceAll (first :: second :: others) new part
      = replaceAll (first :: second :: others) new (part ++ []) := by rw [List.append_nil]
    _ = part ++ replaceAll (first :: second :: others) new [] :=
        replaceAll_append_of_not_mem new hpart (by simp)
    _ = part := List.append_nil part

/-- The separators of parts are replaced, and nothing else. -/
theorem replaceAll_intercalate (hdifferent : first ≠ second) {parts : List (List Char)}
    (hparts : ∀ part ∈ parts, second ∉ part) :
    replaceAll (first :: second :: others) new
        ((first :: second :: others).intercalate parts) =
      new.intercalate parts := by
  induction parts with
  | nil => rfl
  | cons part parts ih =>
      rw [List.forall_mem_cons] at hparts
      cases parts with
      | nil =>
          rw [List.intercalate_singleton, List.intercalate_singleton]
          exact replaceAll_eq_self new hparts.1
      | cons next parts =>
          rw [List.intercalate_cons_cons, List.intercalate_cons_cons, List.append_assoc,
            replaceAll_append_of_not_mem new hparts.1 (by simpa using hdifferent),
            replaceAll_append_self (List.cons_ne_nil _ _), ih hparts.2, List.append_assoc]

end Parts

/-! ## Cutting at the end of separators -/

theorem splitOn_append_cons_of_not_mem {c : Char} {part : List Char} (hpart : c ∉ part)
    (rest : List Char) : (part ++ c :: rest).splitOn c = part :: rest.splitOn c := by
  rw [List.splitOn_append_cons_self, List.splitOn_eq_singleton hpart, List.singleton_append]

/-- Cut at the last symbol of the separator, the text has the parts again, all but the last
with the rest of the separator behind them. -/
theorem splitOn_intercalate_append {c : Char} {ending : List Char} (hending : c ∉ ending)
    {parts : List (List Char)} (hparts : ∀ part ∈ parts, c ∉ part) {last : List Char}
    (hlast : c ∉ last) :
    ((ending ++ [c]).intercalate (parts ++ [last])).splitOn c =
      parts.map (· ++ ending) ++ [last] := by
  induction parts with
  | nil =>
      rw [List.nil_append, List.intercalate_singleton, List.splitOn_eq_singleton hlast]
      rfl
  | cons part parts ih =>
      rw [List.forall_mem_cons] at hparts
      have hline : c ∉ part ++ ending := by
        rw [List.mem_append, not_or]
        exact ⟨hparts.1, hending⟩
      have hfirst : (ending ++ [c]).intercalate (part :: parts ++ [last]) =
          (part ++ ending) ++ c :: (ending ++ [c]).intercalate (parts ++ [last]) := by
        cases parts <;> simp [List.intercalate_cons_cons]
      rw [hfirst, splitOn_append_cons_of_not_mem hline, ih hparts.2, List.map_cons,
        List.cons_append]

end Text

end Clausal
