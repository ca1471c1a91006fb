import Clausal.Proofs.Reading.Grammar
import Clausal.Proofs.Reading.Verdict

/-!
# Groups as operands

A text in parentheses as an operand of a connective ought to be read as it is read
alone.  Under `v` it is.  Under `^` it is not always: an operand of `^` is read as a
disjunction, also when it is a group, so `v` is looked for first inside of it.  Where
the group holds both connectives outside its own groups, `v` then binds looser than
`^`; everywhere else the two levels agree (`atLevel_eq_of_not_mixes`).

The main statement draws the line exactly: texts joined in parentheses are always read
as a group, and its operands are what the texts are read as if and only if the
connective is `v` or no text mixes the connectives.
-/

namespace Clausal

namespace Grouping

/-- Both connectives stand outside the groups of a range, when the pairs that enclose
it are taken away. -/
def mixes (tokens : List Token) : Bool :=
  match strip? tokens with
  | some inner => joins .and inner && joins .or inner
  | none => false

theorem mixes_of_strip?_eq_some {tokens inner : List Token} (hstrip : strip? tokens = some inner) :
    mixes tokens = (joins .and inner && joins .or inner) := by
  rw [mixes, hstrip]

end Grouping

/-- A text in parentheses. -/
def inParentheses (text : String) : List Char := '(' :: (text.toList ++ [')'])

/-- Texts in parentheses with a connective between them. -/
def Connective.joinGroups (joint : Connective) (first : String) (others : List String) : String :=
  String.ofList (inParentheses first ++
    others.flatMap fun text => joint.separator ++ inParentheses text)

example : Connective.and.joinGroups "A v B" ["C", "~D"] = "(A v B) ^ (C) ^ (~D)" := by decide

namespace Reading

open Grouping Token

/-! ## The two levels -/

variable {text : List Char} {tokens : List Token}

/-- Where only one connective is found it does not matter which is looked for first. -/
theorem atLevel_eq_of_not_mixes (hmixes : mixes tokens = false) (level : Connective)
    (context : List Token) :
    atLevel text level tokens context = atLevel text .and tokens context := by
  cases hstrip : strip? tokens with
  | none => rw [atLevel_of_torn hstrip, atLevel_of_torn hstrip]
  | some inner =>
      rw [mixes_of_strip?_eq_some hstrip] at hmixes
      have hjoint : jointAt level inner = jointAt .and inner := by
        cases level <;> cases hand : joins .and inner <;> cases hor : joins .or inner <;>
          simp_all [jointAt, Connective.other]
      rw [atLevel_eq hstrip, atLevel_eq hstrip, hjoint]

/-- Where both connectives are found, the one that is looked for first is the outermost. -/
theorem exists_of_mixes (hmixes : mixes tokens = true) {level : Connective} {context : List Token}
    {sentence : Sentence} (hread : (atLevel text level tokens context).result = .ok sentence) :
    ∃ first others, sentence = .group level first others := by
  cases hstrip : strip? tokens with
  | none => simp [mixes, hstrip] at hmixes
  | some inner =>
      rw [mixes_of_strip?_eq_some hstrip, Bool.and_eq_true] at hmixes
      have hjoins : joins level inner = true := by
        cases level
        exacts [hmixes.2, hmixes.1]
      rw [atLevel_of_jointAt_eq_some hstrip (jointAt_of_joins hjoins)] at hread
      obtain ⟨first, others, hgroup, -⟩ := joined_eq_ok_iff.mp hread
      exact ⟨first, others, hgroup⟩

/-! ## One text as an operand -/

section Operand

variable {text : String} {tree : Sentence} (hread : (Sentence.read text).result = .ok tree)
include hread

private theorem atLevel_and_of_read :
    (atLevel text.toList .and (scan text) (scan text)).result = .ok tree := by
  rwa [Sentence.read_eq, balanced_of_balanced (balanced_scan_of_eq_ok hread)] at hread

/-- What can be read at all can be read at either level. -/
theorem exists_verdict_of_read (level : Connective) :
    ∃ tree', verdict level (symbols text.toList) = .ok tree' := by
  have hbalanced := balanced_scan_of_eq_ok hread
  have hderives := (succeeds_atLevel_iff .and hbalanced (scan text)).mp
    ⟨tree, atLevel_and_of_read hread⟩
  have hsucceeds : (atLevel text.toList level (scan text) []).Succeeds :=
    (succeeds_atLevel_iff level hbalanced []).mpr hderives
  rwa [succeeds_iff, outcome_atLevel, map_symbol_scan] at hsucceeds

/-- An operand of a connective is read as it is alone unless `^` joins it to others and
it mixes the connectives. -/
theorem verdict_other_eq_ok_iff (joint : Connective) :
    verdict joint.other (symbols text.toList) = .ok tree ↔
      joint = .or ∨ mixes (scan text) = false := by
  have hand := atLevel_and_of_read hread
  rw [← map_symbol_scan, ← outcome_atLevel text.toList joint.other (scan text) (scan text),
    outcome_eq_ok_iff]
  cases joint with
  | or => exact iff_of_true hand (Or.inl rfl)
  | and =>
      cases hmixes : mixes (scan text) with
      | false =>
          rw [atLevel_eq_of_not_mixes hmixes]
          exact iff_of_true hand (Or.inr rfl)
      | true =>
          -- each level reads a group under its own connective
          refine iff_of_false ?_ (by simp)
          intro hor
          obtain ⟨_, _, rfl⟩ := exists_of_mixes hmixes hand
          obtain ⟨_, _, hgroup⟩ := exists_of_mixes hmixes hor
          simp [Connective.other] at hgroup

end Operand

/-! ## The joined text -/

theorem symbols_inParentheses (text : String) :
    symbols (inParentheses text) = '(' :: (symbols text.toList ++ [')']) := by
  rw [inParentheses, symbols_cons_of_not_white rfl, symbols_append]
  rfl

theorem symbols_joinGroups (joint : Connective) (first : String) (others : List String) :
    symbols (joint.joinGroups first others).toList =
      symbols (inParentheses first) ++
        (others.map fun text => symbols (inParentheses text)).flatMap (joint.symbol :: ·) := by
  rw [Connective.joinGroups, String.toList_ofList, symbols_append, symbols_flatMap,
    List.flatMap_map]
  simp only [symbols_append, symbols_separator, List.singleton_append]

/-- Balanced texts joined in parentheses are read one by one. -/
theorem outcome_read_joinGroups (joint : Connective) {first : String} {others : List String}
    (hnonempty : others ≠ []) (hfirst : Balanced (scan first))
    (hothers : ∀ text ∈ others, Balanced (scan text)) :
    (Sentence.read (joint.joinGroups first others)).outcome =
      (verdict joint.other (symbols first.toList) >>= fun head =>
        (others.mapM fun text => verdict joint.other (symbols text.toList)) >>= fun tail =>
          .ok (.group joint head tail)) := by
  have hclosedFirst : Closed (unplaced (symbols (inParentheses first))) := by
    rw [symbols_inParentheses]
    exact closed_unplaced_enclose (balanced_scan_iff.mp hfirst)
  have hclosedOthers : ∀ other ∈ others.map fun text => symbols (inParentheses text),
      Closed (unplaced other) := by
    rw [List.forall_mem_map]
    intro text htext
    rw [symbols_inParentheses]
    exact closed_unplaced_enclose (balanced_scan_iff.mp (hothers text htext))
  have hbalanced : Balanced (scan (joint.joinGroups first others)) := by
    rw [balanced_scan_iff, symbols_joinGroups]
    exact balanced_join hclosedFirst hclosedOthers
  rw [outcome_read_of_balanced hbalanced, symbols_joinGroups,
    verdict_join hclosedFirst hclosedOthers (by simpa using hnonempty), symbols_inParentheses,
    verdict_enclose _ (balanced_scan_iff.mp hfirst), List.mapM_map]
  congr 1
  funext head
  congr 1
  refine mapM_congr_of_mem fun text htext => ?_
  rw [Function.comp_apply, symbols_inParentheses,
    verdict_enclose _ (balanced_scan_iff.mp (hothers text htext))]

private theorem mapM_verdict_eq_ok_iff {joint : Connective} {others : List String}
    {trees : List Sentence}
    (hothers : List.Forall₂ (fun text tree => (Sentence.read text).result = .ok tree)
      others trees) :
    (others.mapM fun text => verdict joint.other (symbols text.toList)) = .ok trees ↔
      ∀ text ∈ others, joint = .or ∨ mixes (scan text) = false := by
  rw [mapM_eq_ok_iff]
  induction hothers with
  | nil => simp
  | cons hread _ ih =>
      rw [List.forall₂_cons, List.forall_mem_cons, verdict_other_eq_ok_iff hread, ih]

private theorem exists_mapM_verdict (joint : Connective) {others : List String}
    (hothers : ∀ text ∈ others, ∃ tree, (Sentence.read text).result = .ok tree) :
    ∃ trees, trees.length = others.length ∧
      (others.mapM fun text => verdict joint.other (symbols text.toList)) = .ok trees := by
  simp only [mapM_eq_ok_iff]
  induction others with
  | nil => exact ⟨[], rfl, .nil⟩
  | cons text rest ih =>
      rw [List.forall_mem_cons] at hothers
      obtain ⟨tree, hread⟩ := hothers.1
      obtain ⟨tree', hverdict⟩ := exists_verdict_of_read hread joint.other
      obtain ⟨trees, hlength, htrees⟩ := ih hothers.2
      exact ⟨tree' :: trees, by simp [hlength], .cons hverdict htrees⟩

end Reading

open Reading in
/-- **Groups as operands.**  Sentences joined in parentheses are a group of as many
operands.  These are the sentences that the texts are alone if and only if the connective
is `v` or no text mixes the connectives outside its groups. -/
theorem Sentence.read_joinGroups_iff {joint : Connective} {first : String} {others : List String}
    {firstTree : Sentence} {otherTrees : List Sentence} (hnonempty : others ≠ [])
    (hfirst : (Sentence.read first).result = .ok firstTree)
    (hothers : List.Forall₂ (fun text tree => (Sentence.read text).result = .ok tree)
      others otherTrees) :
    (∃ head tail, tail.length = others.length ∧
      (Sentence.read (joint.joinGroups first others)).result = .ok (.group joint head tail)) ∧
    ((Sentence.read (joint.joinGroups first others)).result =
        .ok (.group joint firstTree otherTrees) ↔
      ∀ text ∈ first :: others, joint = .or ∨ Grouping.mixes (Token.scan text) = false) := by
  have hreads : ∀ text ∈ others, ∃ tree, (Sentence.read text).result = .ok tree := by
    intro text htext
    obtain ⟨tree, -, hread⟩ := exists_mem_of_forall₂ hothers htext
    exact ⟨tree, hread⟩
  have houtcome := outcome_read_joinGroups joint hnonempty (balanced_scan_of_eq_ok hfirst)
    fun text htext => (hreads text htext).elim fun _ hread => balanced_scan_of_eq_ok hread
  simp only [← outcome_eq_ok_iff, houtcome, group_eq_ok_iff]
  constructor
  · obtain ⟨head, hhead⟩ := exists_verdict_of_read hfirst joint.other
    obtain ⟨tail, hlength, htail⟩ := exists_mapM_verdict joint hreads
    exact ⟨head, tail, hlength, hhead, htail⟩
  · rw [List.forall_mem_cons, verdict_other_eq_ok_iff hfirst, mapM_verdict_eq_ok_iff hothers]

/-- Under `v` a group keeps `^` binding loosest. -/
theorem Sentence.read_or_groups :
    (Sentence.read (Connective.or.joinGroups "A ^ B v C" ["~D"])).result =
      .ok (.disjunction
        (.conjunction (.variable ⟨'A', by decide, by decide⟩)
          [.disjunction (.variable ⟨'B', by decide, by decide⟩)
            [.variable ⟨'C', by decide, by decide⟩]])
        [.negation (.variable ⟨'D', by decide, by decide⟩)]) :=
  (Sentence.read_joinGroups_iff (by simp) (by decide +kernel)
    (.cons (by decide +kernel) .nil)).2.mpr (by decide +kernel)

/-- Under `^` the same group has `v` binding loosest: it is not read as it is alone. -/
theorem Sentence.read_and_groups_ne :
    (Sentence.read "A ^ B v C").result =
      .ok (.conjunction (.variable ⟨'A', by decide, by decide⟩)
        [.disjunction (.variable ⟨'B', by decide, by decide⟩)
          [.variable ⟨'C', by decide, by decide⟩]]) ∧
    (Sentence.read "D").result = .ok (.variable ⟨'D', by decide, by decide⟩) ∧
    (Sentence.read "(A ^ B v C) ^ (D)").result ≠
      .ok (.conjunction
        (.conjunction (.variable ⟨'A', by decide, by decide⟩)
          [.disjunction (.variable ⟨'B', by decide, by decide⟩)
            [.variable ⟨'C', by decide, by decide⟩]])
        [.variable ⟨'D', by decide, by decide⟩]) := by
  decide +kernel

end Clausal
