import Clausal.Proofs.Reading.Conservation
import Clausal.Proofs.Reading.Spelling
import Clausal.Proofs.Sentence.Clauses

/-!
# Sentences of one text

Two things about a sentence do not show in its text.  A group of one operand has nothing
between operands, so it looks the same under either connective: `forgetLone` makes every such
group a disjunction.  And the whole sentence stands in no parentheses, so a group of one
operand cannot be told from that operand, unless the operand has parentheses of its own:
`dropLone` leaves out a group of this kind, at the root only.

Everything else shows.  The text of a sentence as an operand ends where it can be seen to end:
a text that begins with it determines the sentence, up to `forgetLone`, and what follows
(`forgetLone_eq_of_renderOperand_append_eq`).  So two sentences have one text if and only if
they are the same after these two changes (`format_inline_eq_iff`).
-/

namespace Clausal

namespace Sentence

/-! ## What does not show -/

mutual

/-- The sentence with a disjunction in the place of every group of one operand. -/
def forgetLone : Sentence → Sentence
  | .variable name => .variable name
  | .negation operand => .negation operand.forgetLone
  | .group joint first others =>
    .group (if others.isEmpty then .or else joint) first.forgetLone (forgetLoneList others)

/-- A list of sentences, each with its groups of one operand changed. -/
def forgetLoneList : List Sentence → List Sentence
  | [] => []
  | sentence :: rest => sentence.forgetLone :: forgetLoneList rest

end

/-- The sentence, or its operand if it is a group of one operand that is no group itself. -/
def dropLone : Sentence → Sentence
  | .group joint first [] => if first.isGroup then .group joint first [] else first
  | sentence => sentence

theorem forgetLoneList_eq_map (sentences : List Sentence) :
    forgetLoneList sentences = sentences.map forgetLone := by
  induction sentences with
  | nil => rfl
  | cons sentence rest ih => rw [forgetLoneList, List.map_cons, ih]

theorem forgetLone_group (joint : Connective) (first : Sentence) (others : List Sentence) :
    forgetLone (.group joint first others) =
      .group (if others.isEmpty then .or else joint) first.forgetLone (others.map forgetLone) := by
  rw [forgetLone, forgetLoneList_eq_map]

@[simp] theorem isGroup_forgetLone (sentence : Sentence) :
    sentence.forgetLone.isGroup = sentence.isGroup := by
  cases sentence <;> rfl

theorem dropLone_of_not_isGroup {sentence : Sentence} (hgroup : sentence.isGroup = false) :
    sentence.dropLone = sentence := by
  cases sentence with
  | «variable» | negation => rfl
  | group => simp [isGroup] at hgroup

theorem dropLone_group_nil_of_not_isGroup (joint : Connective) {first : Sentence}
    (hgroup : first.isGroup = false) : dropLone (.group joint first []) = first := by
  rw [dropLone, hgroup, if_neg Bool.false_ne_true]

theorem dropLone_group_of_isGroup (joint : Connective) {first : Sentence}
    (hgroup : first.isGroup = true) (others : List Sentence) :
    dropLone (.group joint first others) = .group joint first others := by
  cases others with
  | nil => rw [dropLone, if_pos hgroup]
  | cons second others => rfl

theorem dropLone_group_of_ne_nil (joint : Connective) (first : Sentence) {others : List Sentence}
    (hnonempty : others ≠ []) :
    dropLone (.group joint first others) = .group joint first others := by
  obtain ⟨second, others, rfl⟩ := List.exists_cons_of_ne_nil hnonempty
  rfl

/-! ## The text without it -/

theorem renderOperand_group (joint : Connective) (first : Sentence) (others : List Sentence) :
    renderOperand (.group joint first others) =
      '(' :: (first.renderOperand ++ renderOthers joint others ++ [')']) :=
  rfl

theorem renderOperand_of_not_isGroup {sentence : Sentence} (hgroup : sentence.isGroup = false) :
    sentence.renderOperand = sentence.render := by
  rw [renderOperand, asOperand, hgroup, if_neg Bool.false_ne_true]

/-- Of two groups, and of two sentences that are none, the texts are the same if they are the
same as operands. -/
theorem renderOperand_eq_iff {left right : Sentence} (hgroup : left.isGroup = right.isGroup) :
    left.renderOperand = right.renderOperand ↔ left.render = right.render := by
  rw [renderOperand, renderOperand, asOperand, asOperand, hgroup]
  split
  · rw [List.cons.injEq, List.append_left_inj, and_iff_right rfl]
  · rfl

theorem renderOperand_forgetLone (sentence : Sentence) :
    sentence.forgetLone.renderOperand = sentence.renderOperand := by
  induction sentence using operand_induction with
  | «variable» name => rfl
  | negation operand ih => exact congrArg (negationSymbol :: ·) ih
  | group joint first others ihFirst ihOthers =>
      have hothers : renderOthers (if others.isEmpty then .or else joint)
          (others.map forgetLone) = renderOthers joint others := by
        cases others with
        | nil => rfl
        | cons second others =>
            rw [List.isEmpty_cons, if_neg Bool.false_ne_true, renderOthers_eq_flatMap,
              renderOthers_eq_flatMap, List.flatMap_map]
            exact List.flatMap_congr fun other hother => by rw [ihOthers other hother]
      rw [forgetLone_group, renderOperand_group, renderOperand_group, ihFirst, hothers]

theorem render_forgetLone (sentence : Sentence) :
    sentence.forgetLone.render = sentence.render :=
  (renderOperand_eq_iff sentence.isGroup_forgetLone).mp sentence.renderOperand_forgetLone

theorem render_group_nil (joint : Connective) {first : Sentence} (hgroup : first.isGroup = false) :
    render (.group joint first []) = first.render := by
  rw [render, renderOthers, List.append_nil, ← renderOperand, renderOperand_of_not_isGroup hgroup]

theorem render_dropLone (sentence : Sentence) : sentence.dropLone.render = sentence.render := by
  match sentence with
  | .variable name => rfl
  | .negation operand => rfl
  | .group joint first (second :: others) => rfl
  | .group joint first [] =>
      cases hgroup : first.isGroup with
      | true => rw [dropLone_group_of_isGroup joint hgroup]
      | false => rw [dropLone_group_nil_of_not_isGroup joint hgroup, render_group_nil joint hgroup]

/-! ## The text tells the rest -/

/-- A text that begins with the text of the sentence as an operand begins with that of no other
sentence, up to groups of one operand, and both are followed by the same. -/
private def Delimited (sentence : Sentence) : Prop :=
  ∀ (other : Sentence) (rest rest' : List Char),
    sentence.renderOperand ++ rest = other.renderOperand ++ rest' →
      sentence.forgetLone = other.forgetLone ∧ rest = rest'

private theorem delimited_variable (name : Letter) : Delimited (.variable name) := by
  intro other rest rest' htext
  cases other with
  | «variable» name' =>
      obtain ⟨hchar, hrest⟩ := List.cons.inj htext
      exact ⟨congrArg Sentence.variable (Letter.char_injective hchar), hrest⟩
  | negation operand =>
      exact absurd (List.cons.inj htext).1 (name.char_ne rfl (by decide))
  | group joint first others =>
      exact absurd (List.cons.inj htext).1 (name.char_ne rfl (by decide))

private theorem Delimited.negation {operand : Sentence} (hoperand : Delimited operand) :
    Delimited (.negation operand) := by
  intro other rest rest' htext
  cases other with
  | «variable» name =>
      exact absurd (List.cons.inj htext).1.symm (name.char_ne rfl (by decide))
  | negation operand' =>
      obtain ⟨hforget, hrest⟩ := hoperand operand' rest rest' (List.cons.inj htext).2
      exact ⟨congrArg Sentence.negation hforget, hrest⟩
  | group joint first others =>
      exact absurd (List.cons.inj htext).1 (by decide)

/-- The operands after the first are known one by one, up to the parenthesis that closes their
group, and so is their connective if there are any. -/
private theorem forgetLone_eq_of_renderOthers_eq {joint joint' : Connective}
    {others others' : List Sentence} {rest rest' : List Char}
    (hothers : ∀ other ∈ others, Delimited other)
    (htext : renderOthers joint others ++ ')' :: rest =
      renderOthers joint' others' ++ ')' :: rest') :
    (others ≠ [] → joint = joint') ∧ others.map forgetLone = others'.map forgetLone ∧
      rest = rest' := by
  induction others generalizing others' with
  | nil =>
      cases others' with
      | nil => exact ⟨absurd rfl, rfl, (List.cons.inj htext).2⟩
      | cons second' others' => exact absurd (List.cons.inj htext).1 (by decide)
  | cons second others ih =>
      cases others' with
      | nil => exact absurd (List.cons.inj htext).1 (by decide)
      | cons second' others' =>
          rw [List.forall_mem_cons] at hothers
          rw [renderOthers, renderOthers, ← renderOperand, ← renderOperand] at htext
          simp only [Connective.separator, List.cons_append, List.nil_append, List.append_assoc,
            List.cons.injEq, true_and] at htext
          obtain ⟨hsymbol, htext⟩ := htext
          have hjoint : joint = joint' := by
            cases joint <;> cases joint' <;> simp_all [Connective.symbol]
          obtain ⟨hsecond, htext⟩ := hothers.1 second' _ _ htext
          obtain ⟨-, hmore, hrest⟩ := ih hothers.2 htext
          exact ⟨fun _ => hjoint, by rw [List.map_cons, List.map_cons, hsecond, hmore], hrest⟩

private theorem Delimited.group {joint : Connective} {first : Sentence} {others : List Sentence}
    (hfirst : Delimited first) (hothers : ∀ other ∈ others, Delimited other) :
    Delimited (.group joint first others) := by
  intro other rest rest' htext
  cases other with
  | «variable» name =>
      exact absurd (List.cons.inj htext).1.symm (name.char_ne rfl (by decide))
  | negation operand =>
      exact absurd (List.cons.inj htext).1 (by decide)
  | group joint' first' others' =>
      simp only [renderOperand_group, List.cons_append, List.append_assoc, List.nil_append,
        List.cons.injEq, true_and] at htext
      obtain ⟨hforget, htext⟩ := hfirst first' _ _ htext
      obtain ⟨hjoint, hmore, hrest⟩ := forgetLone_eq_of_renderOthers_eq hothers htext
      have hempty : others.isEmpty = others'.isEmpty := by
        have hmapped := congrArg List.isEmpty hmore
        rwa [List.isEmpty_map, List.isEmpty_map] at hmapped
      have hshown : (if others.isEmpty then .or else joint) =
          if others'.isEmpty then .or else joint' := by
        cases others with
        | nil => rw [← hempty]; rfl
        | cons second others => rw [← hempty, hjoint (List.cons_ne_nil second others)]
      exact ⟨by rw [forgetLone_group, forgetLone_group, hforget, hmore, hshown], hrest⟩

private theorem delimited (sentence : Sentence) : Delimited sentence := by
  induction sentence using operand_induction with
  | «variable» name => exact delimited_variable name
  | negation operand ih => exact ih.negation
  | group joint first others ihFirst ihOthers => exact ihFirst.group ihOthers

/-- The text of a sentence as an operand shows where it ends and all of the sentence but the
connectives of its groups of one operand. -/
theorem forgetLone_eq_of_renderOperand_append_eq {left right : Sentence} {rest rest' : List Char}
    (htext : left.renderOperand ++ rest = right.renderOperand ++ rest') :
    left.forgetLone = right.forgetLone ∧ rest = rest' :=
  delimited left right rest rest' htext

/-! ## Whole sentences -/

/-- Of two groups, and of two sentences that are none, the text as a whole shows as much as the
text as an operand. -/
theorem forgetLone_eq_of_render_eq {left right : Sentence} (hgroup : left.isGroup = right.isGroup)
    (htext : left.render = right.render) : left.forgetLone = right.forgetLone := by
  have hoperand := (renderOperand_eq_iff hgroup).mpr htext
  exact (forgetLone_eq_of_renderOperand_append_eq (congrArg (· ++ []) hoperand)).1

/-- A group that has the text of a sentence that is none has one operand, and this is it. -/
theorem dropLone_forgetLone_of_render_eq {group single : Sentence} (hgroup : group.isGroup = true)
    (hsingle : single.isGroup = false) (htext : group.render = single.render) :
    group.forgetLone.dropLone = single.forgetLone := by
  cases group with
  | «variable» | negation => simp [isGroup] at hgroup
  | group joint first others =>
      have hbegins : first.renderOperand ++ renderOthers joint others =
          single.renderOperand ++ [] := by
        rw [renderOperand_of_not_isGroup hsingle, List.append_nil, ← htext]
        rfl
      obtain ⟨hfirst, hothers⟩ := forgetLone_eq_of_renderOperand_append_eq hbegins
      cases others with
      | nil =>
          have hlone : first.forgetLone.isGroup = false := by
            rw [hfirst, isGroup_forgetLone, hsingle]
          rw [forgetLone_group, List.map_nil, dropLone_group_nil_of_not_isGroup _ hlone, hfirst]
      | cons second others => simp [renderOthers, Connective.separator] at hothers

theorem render_eq_render_iff {left right : Sentence} :
    left.render = right.render ↔ left.forgetLone.dropLone = right.forgetLone.dropLone := by
  constructor
  · intro htext
    have hdrop : ∀ {single : Sentence}, single.isGroup = false →
        single.forgetLone.dropLone = single.forgetLone := fun hsingle =>
      dropLone_of_not_isGroup ((isGroup_forgetLone _).trans hsingle)
    cases hleft : left.isGroup <;> cases hright : right.isGroup
    · rw [forgetLone_eq_of_render_eq (hleft.trans hright.symm) htext]
    · rw [hdrop hleft, dropLone_forgetLone_of_render_eq hright hleft htext.symm]
    · rw [hdrop hright, dropLone_forgetLone_of_render_eq hleft hright htext]
    · rw [forgetLone_eq_of_render_eq (hleft.trans hright.symm) htext]
  · intro hshown
    calc left.render
        = left.forgetLone.dropLone.render := by rw [render_dropLone, render_forgetLone]
      _ = right.forgetLone.dropLone.render := by rw [hshown]
      _ = right.render := by rw [render_dropLone, render_forgetLone]

/-! ## Sentences that show as they are -/

/-- No group of the sentence has one operand only. -/
def IsPlural (sentence : Sentence) : Prop := ∀ joint, Node.group joint 1 ∉ sentence.preorder

instance (sentence : Sentence) : Decidable sentence.IsPlural :=
  decidable_of_iff (.group .or 1 ∉ sentence.preorder ∧ .group .and 1 ∉ sentence.preorder)
    ⟨fun hneither joint => match joint with
      | .or => hneither.1
      | .and => hneither.2,
      fun hplural => ⟨hplural .or, hplural .and⟩⟩

theorem mem_preorderOfList_iff {node : Node} {sentences : List Sentence} :
    node ∈ preorderOfList sentences ↔ ∃ sentence ∈ sentences, node ∈ sentence.preorder := by
  induction sentences with
  | nil => simp [preorderOfList]
  | cons sentence rest ih => simp [preorderOfList, ih]

theorem isPlural_negation_iff {operand : Sentence} :
    IsPlural (.negation operand) ↔ operand.IsPlural := by
  simp [IsPlural, preorder]

theorem isPlural_group_iff {joint : Connective} {first : Sentence} {others : List Sentence} :
    IsPlural (.group joint first others) ↔
      others ≠ [] ∧ ∀ operand ∈ first :: others, operand.IsPlural := by
  have hroot : (∀ joint', Node.group joint' 1 ≠ Node.group joint (others.length + 1)) ↔
      others ≠ [] := by
    cases others with
    | nil => simp
    | cons second others => simp
  simp only [IsPlural, preorder, List.mem_cons, List.mem_append, mem_preorderOfList_iff, not_or,
    not_exists, not_and, forall_and, ← hroot, forall_eq_or_imp, ne_eq]
  refine and_congr_right fun _ => and_congr_right fun _ => ?_
  exact ⟨fun hothers other hother joint' => hothers joint' other hother,
    fun hothers joint' other hother => hothers other hother joint'⟩

theorem isPlural_of_isLiteral {sentence : Sentence} (hliteral : sentence.isLiteral = true) :
    sentence.IsPlural := by
  cases sentence with
  | «variable» name => simp [IsPlural, preorder]
  | negation operand =>
      cases operand with
      | «variable» name => simp [IsPlural, preorder]
      | negation | group => simp [isLiteral, isVariable] at hliteral
  | group => simp [isLiteral] at hliteral

namespace IsPlural

variable {sentence : Sentence} (hplural : sentence.IsPlural)
include hplural

theorem forgetLone_eq : sentence.forgetLone = sentence := by
  induction sentence using operand_induction with
  | «variable» name => rfl
  | negation operand ih => rw [forgetLone, ih (isPlural_negation_iff.mp hplural)]
  | group joint first others ihFirst ihOthers =>
      obtain ⟨hnonempty, hoperands⟩ := isPlural_group_iff.mp hplural
      rw [List.forall_mem_cons] at hoperands
      have hothers : others.map forgetLone = others :=
        map_eq_self fun other hother => ihOthers other hother (hoperands.2 other hother)
      have hmany : others.isEmpty = false := by simpa using hnonempty
      rw [forgetLone_group, hmany, if_neg Bool.false_ne_true, ihFirst hoperands.1, hothers]

theorem dropLone_eq : sentence.dropLone = sentence := by
  cases sentence with
  | «variable» | negation => rfl
  | group joint first others =>
      exact dropLone_group_of_ne_nil joint first (isPlural_group_iff.mp hplural).1

/-- Of a sentence without groups of one operand everything shows. -/
theorem shown_eq : sentence.forgetLone.dropLone = sentence := by
  rw [hplural.forgetLone_eq, hplural.dropLone_eq]

end IsPlural

/-- A clause has only its own connective to forget. -/
theorem forgetLone_of_isClause {clause : Sentence} (hclause : clause.isClause = true) :
    clause.forgetLone = clause := by
  obtain ⟨first, others, rfl, hliterals⟩ := isClause_eq_true_iff.mp hclause
  have hkept : ∀ operand ∈ first :: others, operand.forgetLone = operand :=
    fun operand hoperand => (isPlural_of_isLiteral (hliterals operand hoperand)).forgetLone_eq
  rw [List.forall_mem_cons] at hkept
  rw [forgetLone_group, hkept.1, map_eq_self hkept.2, ite_self]

/-- Of a conjunction of clauses the clauses show. -/
theorem shown_of_isClausal {first : Sentence} {others : List Sentence}
    (hclauses : ∀ operand ∈ first :: others, operand.isClause = true) :
    (conjunction first others).forgetLone.dropLone =
      .group (if others.isEmpty then .or else .and) first others := by
  have hkept : ∀ operand ∈ first :: others, operand.forgetLone = operand :=
    fun operand hoperand => forgetLone_of_isClause (hclauses operand hoperand)
  rw [List.forall_mem_cons] at hkept
  have hgroup : first.isGroup = true := by
    obtain ⟨_, _, rfl, -⟩ := isClause_eq_true_iff.mp (hclauses first List.mem_cons_self)
    rfl
  rw [forgetLone_group, hkept.1, map_eq_self hkept.2, dropLone_group_of_isGroup _ hgroup]

/-! ## The main statement -/

/-- **Sentences of one text.**  Two sentences have the same text in one line if and only if they
are the same once every group of one operand is a disjunction and, at the root, such a group has
given way to its operand if that is no group.  So sentences without groups of one operand have
different texts, and so have conjunctions of clauses. -/
theorem format_inline_eq_iff (left right : Sentence) :
    (left.format .inline = right.format .inline ↔
      left.forgetLone.dropLone = right.forgetLone.dropLone) ∧
    (left.IsPlural → right.IsPlural → left.format .inline = right.format .inline →
      left = right) ∧
    (left.isClausal = true → right.isClausal = true →
      left.format .inline = right.format .inline → left = right) := by
  have hshown : left.format .inline = right.format .inline ↔
      left.forgetLone.dropLone = right.forgetLone.dropLone := by
    rw [← render_eq_render_iff, format, format, String.ofList_inj]
  refine ⟨hshown, fun hleft hright htext => ?_, fun hleft hright htext => ?_⟩
  · have hsame := hshown.mp htext
    rwa [hleft.shown_eq, hright.shown_eq] at hsame
  · obtain ⟨first, others, rfl, hclauses⟩ := isClausal_eq_true_iff.mp hleft
    obtain ⟨first', others', rfl, hclauses'⟩ := isClausal_eq_true_iff.mp hright
    have hsame := hshown.mp htext
    rw [shown_of_isClausal hclauses, shown_of_isClausal hclauses'] at hsame
    injection hsame with _ hfirst hothers
    rw [hfirst, hothers]

/-- Lone groups at the root and inside it, with names beyond ASCII; and two sentences of each of
the other kinds. -/
theorem format_inline_eq_iff_lone_groups :
    let a : Sentence := .variable ⟨'α', by decide, by decide⟩
    let b : Sentence := .variable ⟨'B', by decide, by decide⟩
    (format (.conjunction (.negation (.conjunction a [])) []) .inline =
        format (.negation (.disjunction a [])) .inline ∧
      format (.negation (.disjunction a [])) .inline ≠ format (.negation a) .inline) ∧
    (IsPlural (.negation (.conjunction a [b])) ∧ IsPlural (.conjunction (.negation a) [b]) ∧
      format (.negation (.conjunction a [b])) .inline ≠
        format (.conjunction (.negation a) [b]) .inline) ∧
    (isClausal (.conjunction (.disjunction a []) []) = true ∧
      isClausal (.conjunction (.disjunction a [a]) []) = true ∧
      format (.conjunction (.disjunction a []) []) .inline ≠
        format (.conjunction (.disjunction a [a]) []) .inline) := by
  intro a b
  have hplural : IsPlural (.negation (.conjunction a [b])) := by decide +kernel
  have hplural' : IsPlural (.conjunction (.negation a) [b]) := by decide +kernel
  refine ⟨⟨(format_inline_eq_iff _ _).1.mpr (by decide +kernel), fun htext => ?_⟩,
    ⟨hplural, hplural', fun htext => ?_⟩, ⟨rfl, rfl, fun htext => ?_⟩⟩
  · exact absurd ((format_inline_eq_iff _ _).1.mp htext) (by decide +kernel)
  · exact absurd ((format_inline_eq_iff _ _).2.1 hplural hplural' htext) (by decide +kernel)
  · exact absurd ((format_inline_eq_iff _ _).2.2 rfl rfl htext) (by decide +kernel)

end Sentence

end Clausal
