import Clausal.Proofs.Reading.Spelling

/-!
# Reading what was written

This file settles for every sentence what its text is read as.  A readable sentence is
read as its collapse; every other one is refused, and always as an unexpected literal:
in a text that was written from a sentence the parentheses match and no operand is
missing.  The sentences that are read as themselves are those that are read from some
text at all.

The induction is on the sentence, over its spelling instead of its text, and at both
levels at once: an operand of a group is read at the level of the connective that the
group does not have.  What it needs of an operand beyond its own verdict is what is
left of its spelling without its enclosing pairs, because that is what `~` looks at
(`exists_strip?_spelling`).
-/

namespace Clausal

open Grouping Token Reading

namespace Sentence

/-! ## What is left of a spelling -/

/-- Without its enclosing pairs the spelling of a sentence that collapses to a variable
is a letter; that of any other has two symbols at least. -/
theorem exists_strip?_spelling (sentence : Sentence) :
    ∃ inner, strip? (unplaced sentence.spelling) = some inner ∧
      (∀ name, sentence.collapse = .variable name → inner = [⟨name.char, 0⟩]) ∧
      (sentence.collapse.isVariable = false → 2 ≤ inner.length) := by
  induction sentence using operand_induction with
  | «variable» name =>
      refine ⟨_, strip?_spelling_of_not_group rfl, ?_, ?_⟩
      · intro name' hcollapse
        rw [collapse, variable.injEq] at hcollapse
        rw [spelling_variable, hcollapse]
        rfl
      · intro hvariable
        simp [collapse, isVariable] at hvariable
  | negation operand _ =>
      refine ⟨_, strip?_spelling_of_not_group rfl, ?_, ?_⟩
      · intro name hcollapse
        simp [collapse] at hcollapse
      · intro _
        have hpositive := List.length_pos_iff.mpr operand.spelling_ne_nil
        rw [unplaced, List.length_map, spelling_negation, List.length_cons]
        omega
  | group joint first others ihFirst _ =>
      cases others with
      | nil =>
          rw [collapse_group_nil, strip?_spelling_group_nil]
          exact ihFirst
      | cons second others =>
          refine ⟨_, strip?_spelling_group (List.cons_ne_nil second others), ?_, ?_⟩
          · intro name hcollapse
            rw [collapse_group_of_ne_nil joint first (List.cons_ne_nil _ _)] at hcollapse
            simp at hcollapse
          · intro _
            -- the first operand and the connective after it
            have hpositive := List.length_pos_iff.mpr first.spelling_ne_nil
            rw [unplaced, List.length_map, symbols_render_group, List.length_append, List.map_cons,
              List.flatMap_cons, List.cons_append, List.length_cons]
            omega

/-! ## The verdict on a spelling -/

theorem verdict_variable (level : Connective) (name : Letter) :
    verdict level (spelling (.variable name)) =
      if Readable (.variable name) then .ok (.variable name) else .error .unexpectedLiteral := by
  have hliteral := verdict_of_closed level (closed_spelling (.variable name))
    (strip?_spelling_of_not_group rfl)
  have hkind : (⟨name.char, 0⟩ : Token).kind ≠ .not := by
    rw [name.kind_eq]
    split <;> simp
  rw [hliteral, spelling_variable, unplaced_cons, unplaced_nil, literal, if_neg hkind, atom,
    name.letter?_eq]
  by_cases hascii : name.char.isAlpha = true
  · rw [if_pos hascii, if_pos (readable_variable_iff.mpr hascii)]
    rfl
  · rw [if_neg hascii, if_neg fun hreadable => hascii (readable_variable_iff.mp hreadable)]
    rfl

private theorem outcome_atom_of_two_le {tokens : List Token} (hlength : 2 ≤ tokens.length)
    (text : List Char) (negated : Bool) :
    (atom text negated tokens).outcome = .error .unexpectedLiteral := by
  obtain ⟨first, second, rest, rfl⟩ : ∃ first second rest, tokens = first :: second :: rest := by
    rcases tokens with _ | ⟨first, _ | ⟨second, rest⟩⟩
    · simp at hlength
    · simp at hlength
    · exact ⟨first, second, rest, rfl⟩
  rfl

theorem verdict_negation (level : Connective) (operand : Sentence) :
    verdict level (spelling (.negation operand)) =
      if Readable (.negation operand) then .ok (.negation operand.collapse)
      else .error .unexpectedLiteral := by
  have hliteral := verdict_of_closed level (closed_spelling (.negation operand))
    (strip?_spelling_of_not_group rfl)
  obtain ⟨inner, hstrip, hletter, hother⟩ := operand.exists_strip?_spelling
  rw [hliteral, spelling_negation, unplaced_cons]
  cases hcollapse : operand.collapse with
  | «variable» name =>
      obtain rfl := hletter name hcollapse
      rw [literal_not rfl hstrip (List.cons_ne_nil _ _), atom, name.letter?_eq]
      by_cases hascii : name.char.isAlpha = true
      · rw [if_pos hascii, if_pos (readable_negation_iff.mpr ⟨name, hcollapse, hascii⟩)]
        rfl
      · have hreadable : ¬ Readable (.negation operand) := by
          rw [readable_negation_iff]
          rintro ⟨name', hcollapse', hascii'⟩
          rw [hcollapse, variable.injEq] at hcollapse'
          exact hascii (hcollapse' ▸ hascii')
        rw [if_neg hascii, if_neg hreadable]
        rfl
  | negation | group =>
      have hlength : 2 ≤ inner.length := hother (by rw [hcollapse]; rfl)
      have hnonempty : inner ≠ [] := by
        rintro rfl
        simp at hlength
      have hreadable : ¬ Readable (.negation operand) := by
        rw [readable_negation_iff]
        rintro ⟨name, hname, -⟩
        simp [hcollapse] at hname
      rw [literal_not rfl hstrip hnonempty, outcome_atom_of_two_le hlength, if_neg hreadable]
      rfl

/-- A list fails if one of its items does. -/
private theorem mapM_ite {Item Value Fault : Type} (accepts : Item → Prop) [DecidablePred accepts]
    (value : Item → Value) (fault : Fault) (items : List Item) :
    (items.mapM fun item => if accepts item then Except.ok (value item) else .error fault) =
      if ∀ item ∈ items, accepts item then .ok (items.map value) else .error fault := by
  induction items with
  | nil =>
      rw [List.mapM_nil, if_pos (List.forall_mem_nil _)]
      rfl
  | cons item rest ih =>
      rw [List.mapM_cons, ih]
      by_cases hitem : accepts item
      · by_cases hrest : ∀ item ∈ rest, accepts item
        · rw [if_pos hitem, if_pos hrest, if_pos (List.forall_mem_cons.mpr ⟨hitem, hrest⟩)]
          rfl
        · rw [if_pos hitem, if_neg hrest, if_neg fun hall => hrest (List.forall_mem_cons.mp hall).2]
          rfl
      · rw [if_neg hitem, if_neg fun hall => hitem (List.forall_mem_cons.mp hall).1]
        rfl

/-- The text of a sentence is read as its collapse, or refused as an unexpected
literal. -/
theorem verdict_spelling (level : Connective) (sentence : Sentence) :
    verdict level sentence.spelling =
      if Readable sentence then .ok sentence.collapse else .error .unexpectedLiteral := by
  induction sentence using operand_induction generalizing level with
  | «variable» name => exact verdict_variable level name
  | negation operand _ => exact verdict_negation level operand
  | group joint first others ihFirst ihOthers =>
      rcases eq_or_ne others [] with rfl | hnonempty
      · rw [verdict, atLevel_of_strip?_eq (strip?_spelling_group_nil joint first), ← verdict,
          ihFirst, collapse_group_nil]
        exact if_congr readable_group_nil_iff.symm rfl rfl
      · have hothers : (others.mapM fun other => verdict joint.other other.spelling) =
            if ∀ other ∈ others, Readable other then .ok (others.map collapse)
            else .error .unexpectedLiteral := by
          rw [← mapM_ite]
          exact mapM_congr_of_mem fun other hother => ihOthers other hother joint.other
        rw [verdict_spelling_group hnonempty, ihFirst, hothers,
          collapse_group_of_ne_nil joint first hnonempty]
        -- the first operand at fault decides, and all faults are of one family
        by_cases hfirst : Readable first
        · by_cases hrest : ∀ other ∈ others, Readable other
          · have hgroup : Readable (.group joint first others) :=
              readable_group_iff.mpr (List.forall_mem_cons.mpr ⟨hfirst, hrest⟩)
            rw [if_pos hfirst, if_pos hrest, if_pos hgroup]
            rfl
          · have hgroup : ¬ Readable (.group joint first others) := fun hgroup =>
              hrest (List.forall_mem_cons.mp (readable_group_iff.mp hgroup)).2
            rw [if_pos hfirst, if_neg hrest, if_neg hgroup]
            rfl
        · have hgroup : ¬ Readable (.group joint first others) := fun hgroup =>
            hfirst (List.forall_mem_cons.mp (readable_group_iff.mp hgroup)).1
          rw [if_neg hfirst, if_neg hgroup]
          rfl

end Sentence

/-! ## What is read is direct -/

theorem Token.isAlpha_of_letter?_eq_some {token : Token} {letter : Letter}
    (hletter : token.letter? = some letter) : letter.char.isAlpha = true := by
  unfold letter? at hletter
  split at hletter
  · next hascii =>
      rw [← Option.some.inj hletter]
      exact hascii.1
  · simp at hletter

theorem Token.char_of_letter?_eq_some {token : Token} {letter : Letter}
    (hletter : token.letter? = some letter) : letter.char = token.symbol := by
  unfold letter? at hletter
  split at hletter
  · rw [← Option.some.inj hletter]
  · simp at hletter

namespace Reading

variable {text : List Char} {tokens context : List Token}

private theorem isAlpha_of_atom_eq_ok {negated : Bool} {literal : Literal Letter}
    (hatom : (atom text negated tokens).result = .ok literal) :
    literal.name.char.isAlpha = true := by
  rcases tokens with _ | ⟨token, _ | ⟨second, rest⟩⟩
  · simp [atom] at hatom
  · rw [atom] at hatom
    cases hletter : token.letter? with
    | none => simp [hletter] at hatom
    | some letter =>
        rw [hletter] at hatom
        obtain rfl := Except.ok.inj hatom
        exact isAlpha_of_letter?_eq_some hletter
  · simp [atom] at hatom

/-- Only ASCII letters are settled. -/
theorem isAlpha_of_literal_eq_ok {found : Literal Letter}
    (hliteral : (literal text tokens context).result = .ok found) :
    found.name.char.isAlpha = true := by
  cases tokens with
  | nil => simp [literal] at hliteral
  | cons first rest =>
      rw [literal] at hliteral
      split at hliteral
      · obtain ⟨inner, -, hatom⟩ := bind_eq_ok_iff.mp hliteral
        split at hatom
        · simp at hatom
        · exact isAlpha_of_atom_eq_ok hatom
      · exact isAlpha_of_atom_eq_ok hliteral

/-- By induction over the operands that are read on the way: a group that is read has
two operands at least. -/
theorem direct_of_atLevel_eq_ok {level : Connective} {sentence : Sentence}
    (hread : (atLevel text level tokens context).result = .ok sentence) :
    sentence.Direct := by
  induction level, tokens using level_induction generalizing context sentence with
  | step level tokens ih =>
      cases hstrip : strip? tokens with
      | none => simp [atLevel_of_torn hstrip] at hread
      | some inner =>
          cases hjoint : jointAt level inner with
          | none =>
              rw [atLevel_of_jointAt_eq_none hstrip hjoint, map_eq_ok_iff] at hread
              obtain ⟨found, hliteral, rfl⟩ := hread
              refine Sentence.direct_of_isLiteral (Sentence.isLiteral_ofLiteral found) ?_
              rw [Sentence.inAlphabet_ofLiteral, isAlpha_of_literal_eq_ok hliteral]
          | some joint =>
              rw [atLevel_of_jointAt_eq_some hstrip hjoint, joined_eq_ok_iff] at hread
              obtain ⟨first, others, rfl, hfirst, hothers⟩ := hread
              have hparts := ih inner joint hstrip hjoint
              rw [allOperands, List.forall_mem_cons] at hparts
              have hnonempty : others ≠ [] := by
                have hjoins := joins_eq_true_iff.mp (joins_of_jointAt_eq_some hjoint)
                rintro rfl
                exact hjoins (List.forall₂_nil_right_iff.mp hothers)
              refine Sentence.direct_group hnonempty (hparts.1 hfirst) ?_
              intro other hother
              obtain ⟨part, hpart, hread⟩ := exists_mem_of_forall₂ hothers.flip hother
              exact hparts.2 part hpart hread

theorem direct_of_read_eq_ok {text : String} {sentence : Sentence}
    (hread : (Sentence.read text).result = .ok sentence) : sentence.Direct := by
  rw [Sentence.read_eq, balanced_of_balanced (balanced_scan_of_eq_ok hread)] at hread
  exact direct_of_atLevel_eq_ok hread

end Reading

/-! ## The main statement -/

theorem Sentence.outcome_read_format (sentence : Sentence) :
    (Sentence.read (sentence.format .inline)).outcome =
      if Readable sentence then .ok sentence.collapse else .error .unexpectedLiteral := by
  have hsymbols : (sentence.format .inline).toList = sentence.render := String.toList_ofList
  have hbalanced : Balanced (scan (sentence.format .inline)) := by
    rw [balanced_scan_iff, hsymbols]
    exact sentence.balanced_symbols_render
  rw [outcome_read_of_balanced hbalanced, hsymbols, verdict_symbols_render, verdict_spelling]

/-- **Reading what was written.**  The text of a sentence is read as the collapse of
the sentence if the sentence is readable, and else refused as an unexpected literal.
It is read as the sentence itself if and only if some text is. -/
theorem Sentence.read_format (sentence : Sentence) :
    (Sentence.read (sentence.format .inline)).outcome =
        (if Readable sentence then .ok sentence.collapse else .error .unexpectedLiteral) ∧
      ((Sentence.read (sentence.format .inline)).result = .ok sentence ↔
        ∃ text, (Sentence.read text).result = .ok sentence) := by
  refine ⟨sentence.outcome_read_format, ?_, ?_⟩
  · intro hread
    exact ⟨_, hread⟩
  · rintro ⟨text, hread⟩
    have hdirect := direct_of_read_eq_ok hread
    rw [← outcome_eq_ok_iff, sentence.outcome_read_format, if_pos hdirect.toReadable,
      hdirect.collapse_eq]

end Clausal
