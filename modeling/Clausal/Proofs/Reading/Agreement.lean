import Clausal.Proofs.Reading.Faults
import Clausal.Proofs.Reading.Groups
import Clausal.Proofs.Sentence.Clauses

/-!
# The two readings agree

The strict reading keeps groups of one operand and the direct reading does not, so the
strict one reads a conjunction of clauses where the direct one reads its collapse
(`readClauses_eq_ok_iff`), and nothing else.  Which sentences that leaves for the direct
reading is a matter of their shape, `isLooselyClausal`.

The two readings take enclosing pairs away at different moments, but both work on ranges
that nothing encloses, and there they cut in the same places.  So the simulation goes level
by level, from the literals up: `ReadsStrictly` says of a strict reading that it agrees with
the direct one at a level, and joining the operands of a connective keeps that
(`ReadsStrictly.joined`).  The converse is where the shape matters: the direct reading goes
on inside a group, while the strict one has to refuse it.
-/

namespace Clausal

open Grouping Token

namespace Reading

variable {text : List Char}

/-! ## What the direct reading says of a range -/

/-- A group is read where its connective is found. -/
theorem jointAt_of_atLevel_eq_group {level joint : Connective} {tokens inner context : List Token}
    {first : Sentence} {others : List Sentence} (hstrip : strip? tokens = some inner)
    (hread : (atLevel text level tokens context).result = .ok (.group joint first others)) :
    jointAt level inner = some joint := by
  cases hjoint : jointAt level inner with
  | none =>
      rw [atLevel_of_jointAt_eq_none hstrip hjoint, map_eq_ok_iff] at hread
      obtain ⟨found, -, hfound⟩ := hread
      have hliteral := Sentence.isLiteral_ofLiteral found
      simp [hfound, Sentence.isLiteral] at hliteral
  | some found =>
      rw [atLevel_of_jointAt_eq_some hstrip hjoint, joined_eq_ok_iff] at hread
      obtain ⟨_, _, hgroup, -⟩ := hread
      rw [Sentence.group.injEq] at hgroup
      rw [hgroup.1]

/-- Where the connective of the level is not found, the next level is tried. -/
theorem atLevel_of_not_joins {level : Connective} {tokens inner : List Token}
    (hstrip : strip? tokens = some inner) (hjoins : joins level inner = false)
    (context : List Token) :
    atLevel text level tokens context = atLevel text level.other tokens context := by
  have hmixes : mixes tokens = false := by
    rw [mixes_of_strip?_eq_some hstrip]
    cases level <;> simp [hjoins]
  rw [atLevel_eq_of_not_mixes hmixes level, atLevel_eq_of_not_mixes hmixes level.other]

/-- Nothing joins what is a literal. -/
theorem not_joins_of_literal_eq_ok {tokens context : List Token} {found : Literal Letter}
    (hbalanced : Balanced tokens) (hread : (literal text tokens context).result = .ok found)
    (joint : Connective) : joins joint tokens = false := by
  have hderives := (succeeds_literal_iff hbalanced context).mp ⟨found, hread⟩
  have hclosed := (Grammar.Derives.literal hderives).closed rfl
  exact hclosed.not_joins joint

/-- The context of a literal is only quoted where it is missing. -/
theorem literal_eq_ok_congr {tokens context context' : List Token} {found : Literal Letter} :
    (literal text tokens context).result = .ok found ↔
      (literal text tokens context').result = .ok found := by
  cases tokens with
  | nil => simp [literal]
  | cons first rest => rfl

/-! ## The simulation -/

/-- The reading accepts the sentences of a kind, each where the direct reading at a level
gives its collapse. -/
def ReadsStrictly (text : List Char) (level : Connective) (accepts : Sentence → Bool)
    (read : List Token → Reading Sentence) : Prop :=
  ∀ ⦃tokens⦄, Balanced tokens → ∀ context sentence,
    (read tokens).result = .ok sentence ↔
      accepts sentence = true ∧
        (atLevel text level tokens context).result = .ok sentence.collapse

theorem readsStrictly_disjunct (text : List Char) (level : Connective) (inner : List Token) :
    ReadsStrictly text level Sentence.isLiteral (clause.disjunct text inner) := by
  intro tokens hbalanced context sentence
  obtain ⟨stripped, hstrip, hstripped⟩ := hbalanced.exists_strip?_eq_some
  rw [disjunct_eq, strip_eq_pure hstrip, pure_bind, map_eq_ok_iff]
  constructor
  · rintro ⟨found, hfound, rfl⟩
    have hliteral := Sentence.isLiteral_ofLiteral found
    have hjoint : jointAt level stripped = none := by
      simp [jointAt, not_joins_of_literal_eq_ok hstripped hfound]
    refine ⟨hliteral, ?_⟩
    rw [Sentence.collapse_of_isLiteral hliteral, atLevel_of_jointAt_eq_none hstrip hjoint,
      map_eq_ok_iff]
    exact ⟨found, literal_eq_ok_congr.mp hfound, rfl⟩
  · rintro ⟨hliteral, hread⟩
    rw [Sentence.collapse_of_isLiteral hliteral] at hread
    cases hjoint : jointAt level stripped with
    | none =>
        rw [atLevel_of_jointAt_eq_none hstrip hjoint, map_eq_ok_iff] at hread
        obtain ⟨found, hfound, hsentence⟩ := hread
        exact ⟨found, literal_eq_ok_congr.mp hfound, hsentence⟩
    | some joint =>
        -- what is cut is read as a group, which is no literal
        rw [atLevel_of_jointAt_eq_some hstrip hjoint, joined_eq_ok_iff] at hread
        obtain ⟨_, _, rfl, -⟩ := hread
        simp [Sentence.isLiteral] at hliteral

section Joined

variable {joint : Connective} {accepts : Sentence → Bool} {read : List Token → Reading Sentence}

private theorem ReadsStrictly.forall₂_iff (hread : ReadsStrictly text joint.other accepts read)
    {parts : List (List Token)} (hparts : ∀ part ∈ parts, Balanced part) (context : List Token)
    {operands : List Sentence} :
    List.Forall₂ (fun part operand => (read part).result = .ok operand) parts operands ↔
      (∀ operand ∈ operands, accepts operand = true) ∧
        List.Forall₂ (fun part operand =>
          (atLevel text joint.other part context).result = .ok operand) parts
            (operands.map Sentence.collapse) := by
  induction parts generalizing operands with
  | nil => cases operands <;> simp
  | cons part rest ih =>
      rw [List.forall_mem_cons] at hparts
      cases operands with
      | nil => simp
      | cons operand others =>
          rw [List.forall₂_cons, List.map_cons, List.forall₂_cons, List.forall_mem_cons,
            hread hparts.1 context, ih hparts.2]
          tauto

variable (hread : ReadsStrictly text joint.other accepts read) {inner : List Token}
  (hinner : Balanced inner) {first : Sentence} {others : List Sentence}

include hread hinner

/-- Where the connective is found, both readings make a group of the operands. -/
private theorem ReadsStrictly.joined_of_joins (hjoins : joins joint inner = true)
    (hcollapse : ∀ sentence first others, accepts sentence = true →
      sentence.collapse ≠ .group joint first others) :
    (Reading.joined joint read inner).result = .ok (.group joint first others) ↔
      (∀ operand ∈ first :: others, accepts operand = true) ∧
        (Reading.joined joint (fun part => atLevel text joint.other part inner) inner).result =
          .ok (Sentence.group joint first others).collapse := by
  have hcut := joins_eq_true_iff.mp hjoins
  have hfirst : Balanced (operands joint inner).1 :=
    hinner.of_mem_allOperands List.mem_cons_self
  have hothers : ∀ part ∈ (operands joint inner).2, Balanced part := by
    intro part hpart
    exact hinner.of_mem_allOperands (List.mem_cons_of_mem _ hpart)
  rw [joined_eq_ok_iff, joined_eq_ok_iff, List.forall_mem_cons]
  constructor
  · rintro ⟨_, _, hgroup, hreadFirst, hreadOthers⟩
    rw [Sentence.group.injEq] at hgroup
    obtain ⟨-, rfl, rfl⟩ := hgroup
    rw [hread hfirst inner] at hreadFirst
    rw [hread.forall₂_iff hothers inner] at hreadOthers
    have hnonempty : others ≠ [] := by
      rintro rfl
      exact hcut (List.forall₂_nil_right_iff.mp hreadOthers.2)
    exact ⟨⟨hreadFirst.1, hreadOthers.1⟩, _, _,
      Sentence.collapse_group_of_ne_nil joint first hnonempty, hreadFirst.2, hreadOthers.2⟩
  · rintro ⟨haccepted, head, tail, hgroup, hreadHead, hreadTail⟩
    -- a single operand would have to collapse to the group that was cut
    rcases eq_or_ne others [] with rfl | hnonempty
    · rw [Sentence.collapse_group_nil] at hgroup
      exact absurd hgroup (hcollapse first head tail haccepted.1)
    · rw [Sentence.collapse_group_of_ne_nil joint first hnonempty, Sentence.group.injEq] at hgroup
      obtain ⟨-, rfl, rfl⟩ := hgroup
      refine ⟨first, others, rfl, (hread hfirst inner first).mpr ⟨haccepted.1, hreadHead⟩, ?_⟩
      exact (hread.forall₂_iff hothers inner).mpr ⟨haccepted.2, hreadTail⟩

/-- Where it is not found, the strict reading makes a group of what the direct one passes
on. -/
private theorem ReadsStrictly.joined_of_not_joins (hstrip : strip? inner = some inner)
    (hjoins : joins joint inner = false) (context : List Token) :
    (Reading.joined joint read inner).result = .ok (.group joint first others) ↔
      (∀ operand ∈ first :: others, accepts operand = true) ∧
        (atLevel text joint.other inner context).result =
          .ok (Sentence.group joint first others).collapse := by
  rw [joined_eq_ok_iff, operands_eq_self hjoins]
  constructor
  · rintro ⟨_, _, hgroup, hreadFirst, hreadOthers⟩
    rw [Sentence.group.injEq] at hgroup
    obtain ⟨-, rfl, rfl⟩ := hgroup
    obtain rfl := List.forall₂_nil_left_iff.mp hreadOthers
    rw [hread hinner context] at hreadFirst
    rw [Sentence.collapse_group_nil, List.forall_mem_singleton]
    exact hreadFirst
  · rintro ⟨haccepted, hreadGroup⟩
    rw [List.forall_mem_cons] at haccepted
    -- several operands would be cut at the connective, which is not found
    rcases eq_or_ne others [] with rfl | hnonempty
    · rw [Sentence.collapse_group_nil] at hreadGroup
      have hreadFirst := (hread hinner context first).mpr ⟨haccepted.1, hreadGroup⟩
      exact ⟨first, [], rfl, hreadFirst, .nil⟩
    · rw [Sentence.collapse_group_of_ne_nil joint first hnonempty] at hreadGroup
      have hjoint := jointAt_of_atLevel_eq_group hstrip hreadGroup
      simp [joins_of_jointAt_eq_some hjoint] at hjoins

end Joined

/-- Operands that are read strictly are joined strictly.  No accepted operand may have a
group of the connective for its collapse: it could not be told from a group of several. -/
theorem ReadsStrictly.joined {joint : Connective} {accepts acceptsGroup : Sentence → Bool}
    {read : List Token → List Token → Reading Sentence}
    (hread : ∀ inner, ReadsStrictly text joint.other accepts (read inner))
    (haccepts : ∀ sentence, acceptsGroup sentence = true ↔ ∃ first others,
      sentence = .group joint first others ∧ ∀ operand ∈ first :: others, accepts operand = true)
    (hcollapse : ∀ sentence first others, accepts sentence = true →
      sentence.collapse ≠ .group joint first others) :
    ReadsStrictly text joint acceptsGroup fun tokens =>
      strip tokens >>= fun inner => Reading.joined joint (read inner) inner := by
  intro tokens hbalanced context sentence
  obtain ⟨inner, hstrip, hinner⟩ := hbalanced.exists_strip?_eq_some
  have hidle := strip?_of_strip?_eq_some hstrip
  beta_reduce
  rw [strip_eq_pure hstrip, pure_bind, haccepts,
    atLevel_of_strip?_eq (hstrip.trans hidle.symm)]
  suffices hgroups : ∀ first others,
      (Reading.joined joint (read inner) inner).result = .ok (.group joint first others) ↔
        (∀ operand ∈ first :: others, accepts operand = true) ∧
          (atLevel text joint inner context).result =
            .ok (Sentence.group joint first others).collapse by
    constructor
    · intro hjoined
      obtain ⟨first, others, rfl, -⟩ := joined_eq_ok_iff.mp hjoined
      obtain ⟨haccepted, hdirect⟩ := (hgroups first others).mp hjoined
      exact ⟨⟨first, others, rfl, haccepted⟩, hdirect⟩
    · rintro ⟨⟨first, others, rfl, haccepted⟩, hdirect⟩
      exact (hgroups first others).mpr ⟨haccepted, hdirect⟩
  intro first others
  cases hjoins : joins joint inner with
  | true =>
      rw [atLevel_of_jointAt_eq_some hidle (jointAt_of_joins hjoins)]
      exact (hread inner).joined_of_joins hinner hjoins hcollapse
  | false =>
      rw [atLevel_of_not_joins hidle hjoins]
      exact (hread inner).joined_of_not_joins hinner hidle hjoins context

theorem readsStrictly_clause (text : List Char) :
    ReadsStrictly text .or Sentence.isClause (clause text) := by
  refine ReadsStrictly.joined (fun inner => readsStrictly_disjunct text .and inner)
    (fun _ => Sentence.isClause_eq_true_iff) ?_
  intro sentence first others hliteral hgroup
  rw [Sentence.collapse_of_isLiteral hliteral] at hgroup
  simp [hgroup, Sentence.isLiteral] at hliteral

theorem readsStrictly_clauses (text : List Char) :
    ReadsStrictly text .and Sentence.isClausal (clauses text) := by
  refine ReadsStrictly.joined (fun _ => readsStrictly_clause text)
    (fun _ => Sentence.isClausal_eq_true_iff) ?_
  intro sentence first others hclause hgroup
  have hloose : sentence.isLooseClause = true := by
    rw [Sentence.isLooseClause, hclause, Bool.or_true]
  have hcollapse := Sentence.isLooseClause_collapse hloose
  simp [hgroup, Sentence.isLooseClause, Sentence.isLiteral, Sentence.isClause] at hcollapse

/-- A text is read strictly as a conjunction of clauses if it is read directly as the collapse
of that conjunction. -/
theorem readClauses_eq_ok_iff {text : String} {sentence : Sentence} :
    (Sentence.readClauses text).result = .ok sentence ↔
      sentence.isClausal = true ∧ (Sentence.read text).result = .ok sentence.collapse := by
  by_cases hbalanced : Balanced (scan text)
  · rw [Sentence.readClauses, Sentence.read_eq, balanced_of_balanced hbalanced,
      balanced_of_balanced hbalanced]
    exact readsStrictly_clauses text.toList hbalanced (scan text) sentence
  · refine iff_of_false ?_ ?_
    · intro hread
      exact hbalanced (balanced_scan_of_eq_ok hread)
    · rintro ⟨-, hread⟩
      exact hbalanced (balanced_scan_of_eq_ok hread)

/-! ## Texts that only the direct reading accepts -/

/-- Whatever the grammar derives holds a variable. -/
theorem variable_mem_of_derives {category : Grammar.Category} {word : List Token.Kind}
    (hword : Grammar.Derives category word) : .variable ∈ word := by
  induction hword with
  | sentence _ _ ihFirst _ | conjunct _ _ ihFirst _ => exact List.mem_append_left _ ihFirst
  | literal _ ih => exact ih
  | group _ ih | enclosedAtom _ ih =>
      exact List.mem_cons_of_mem _ (List.mem_append_left _ ih)
  | «variable» | atom => exact List.mem_singleton_self _
  | negation _ ih => exact List.mem_cons_of_mem _ ih

theorem variable_mem_of_wraps {tokens inner : List Token} (hwraps : Wraps tokens inner)
    (hmem : .variable ∈ tokens.map Token.kind) : .variable ∈ inner.map Token.kind := by
  induction hwraps with
  | bare => exact hmem
  | pair hopening hclosing _ ih =>
      refine ih ?_
      simpa [hopening, hclosing] using hmem

/-- A range that the grammar derives from a sentence stays one, in any part of a reading. -/
theorem hereditary_chain :
    Hereditary fun tokens => Balanced tokens ∧ Grammar.Chain (tokens.map Token.kind) where
  balanced htokens := htokens.1
  strip htokens hstrip := ⟨htokens.1.of_strip?_eq_some hstrip,
    (Grammar.chain_iff_of_strip?_eq_some htokens.1 hstrip).mp htokens.2⟩
  operand htokens hpart := ⟨htokens.1.of_mem_allOperands hpart,
    (Grammar.chain_iff_forall_allOperands _ _).mp htokens.2 _ hpart⟩

/-- A sentence at a literal's place lacks nothing: it is refused for what it is. -/
theorem LiteralFault.kind_of_chain {context tokens : List Token} {fault : ReadError}
    (hfault : LiteralFault text context tokens fault)
    (hchain : Grammar.Chain (tokens.map Token.kind)) : fault.kind = .unexpectedLiteral := by
  have hmem := variable_mem_of_derives (Grammar.derives_sentence_iff_chain.mpr hchain)
  cases hfault with
  | empty => simp at hmem
  | negatesNothing hnot hstrip =>
      rw [List.map_cons, hnot, List.mem_cons] at hmem
      have hrest := hmem.resolve_left (by simp)
      simpa using variable_mem_of_wraps (wraps_of_strip?_eq_some hstrip) hrest
  | negatesOther | other => rfl

theorem kind_of_readClauses_eq_error {text : String} {sentence : Sentence} {fault : ReadError}
    (hread : (Sentence.read text).result = .ok sentence)
    (hstrict : (Sentence.readClauses text).result = .error fault) :
    fault.kind = .unexpectedLiteral := by
  have hbalanced := balanced_scan_of_eq_ok hread
  rw [Sentence.read_eq, balanced_of_balanced hbalanced] at hread
  have hderives := (succeeds_atLevel_iff .and hbalanced (scan text)).mp ⟨sentence, hread⟩
  have hchain := Grammar.derives_sentence_iff_chain.mp hderives
  obtain ⟨enclosing, range, hrefused⟩ :=
    hereditary_chain.exists_refusedAt .clausal ⟨hbalanced, hchain⟩ hstrict
  exact hrefused.literalFault.kind_of_chain hrefused.holds_range.2

end Reading

/-! ## The main statement -/

open Reading in
/-- **The two readings agree.**  A text is read strictly if and only if it is read directly
as what is loosely a conjunction of clauses, and what it is read directly as is then the
collapse of what it is read strictly as.  A text that is read directly only is refused by
the strict reading as an unexpected literal; one that is not read directly is refused by the
strict reading, too, and for its parentheses with the same fault. -/
theorem Sentence.read_agrees (text : String) :
    ((∃ clausal, (readClauses text).result = .ok clausal) ↔
      ∃ sentence, (read text).result = .ok sentence ∧ sentence.isLooselyClausal = true) ∧
    (∀ clausal, (readClauses text).result = .ok clausal →
      (read text).result = .ok clausal.collapse) ∧
    (∀ sentence fault, (read text).result = .ok sentence →
      (readClauses text).result = .error fault → fault.kind = .unexpectedLiteral) ∧
    (∀ fault, (read text).result = .error fault →
      ∃ fault, (readClauses text).result = .error fault) ∧
    ∀ fault, fault.kind = .parenthesisMismatch →
      ((read text).result = .error fault ↔ (readClauses text).result = .error fault) := by
  refine ⟨⟨?_, ?_⟩, ?_, ?_, ?_, ?_⟩
  · rintro ⟨clausal, hstrict⟩
    obtain ⟨hclausal, hread⟩ := readClauses_eq_ok_iff.mp hstrict
    exact ⟨clausal.collapse, hread, isLooselyClausal_collapse hclausal⟩
  · rintro ⟨sentence, hread, hloose⟩
    obtain ⟨clausal, hclausal, rfl⟩ :=
      exists_isClausal_collapse_eq hloose (direct_of_read_eq_ok hread).collapse_eq
    exact ⟨clausal, readClauses_eq_ok_iff.mpr ⟨hclausal, hread⟩⟩
  · intro clausal hstrict
    exact (readClauses_eq_ok_iff.mp hstrict).2
  · intro sentence fault hread hstrict
    exact kind_of_readClauses_eq_error hread hstrict
  · intro fault hread
    cases hstrict : (readClauses text).result with
    | error fault => exact ⟨fault, rfl⟩
    | ok clausal => simp [(readClauses_eq_ok_iff.mp hstrict).2] at hread
  · intro fault hkind
    have hread : (Mode.direct.read text).result = .error fault ∧ _ ↔ _ :=
      Mode.direct.read_eq_error_mismatch_iff
    have hstrict : (Mode.clausal.read text).result = .error fault ∧ _ ↔ _ :=
      Mode.clausal.read_eq_error_mismatch_iff
    simp only [hkind, and_true] at hread hstrict
    exact hread.trans hstrict.symm

end Clausal
