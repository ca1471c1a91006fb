import Clausal.Proofs.Reading.Faults

/-!
# Two readings side by side

Laws about pairs of texts: a text and a variant of it are read in the same way.  Both
readings cut their text into ranges, so such a law comes from a relation between the ranges
of the one and the ranges of the other that every step keeps: taking enclosing pairs away,
cutting at a connective, and settling a literal.  `Simulation` lists these steps.  What they
keep, a whole reading keeps, in either mode (`Simulation.endAlike_readTokens`): both end
with the same value, or with faults that are related.

How faults are related is left open: they may have to be of one family, or also to quote
the same part of the text up to blanks.  Where the family is enough, texts of the same symbols
need no simulation (`Mode.outcome_read_of_symbols_eq`).
-/

namespace Clausal

namespace Reading

open Grouping Token

variable {Value Result Item Item' : Type} {faults : ReadError → ReadError → Prop}

/-! ## Readings that end alike -/

/-- Two readings end with one value, or with faults that are related. -/
inductive EndAlike (faults : ReadError → ReadError → Prop) (reading reading' : Reading Value) :
    Prop
  | value {value : Value} (hread : reading.result = .ok value)
      (hread' : reading'.result = .ok value)
  | fault {fault fault' : ReadError} (hread : reading.result = .error fault)
      (hread' : reading'.result = .error fault') (hfaults : faults fault fault')

namespace EndAlike

theorem pure (value : Value) :
    EndAlike faults (Pure.pure value : Reading Value) (Pure.pure value) :=
  .value rfl rfl

theorem fail {fault fault' : ReadError} (hfaults : faults fault fault') :
    EndAlike faults (Reading.fail fault : Reading Value) (Reading.fail fault') :=
  .fault rfl rfl hfaults

theorem bind {reading reading' : Reading Value} {next next' : Value → Reading Result}
    (hreading : EndAlike faults reading reading')
    (hnext : ∀ value, EndAlike faults (next value) (next' value)) :
    EndAlike faults (reading >>= next) (reading' >>= next') := by
  cases hreading with
  | fault hread hread' hfaults =>
      exact .fault (bind_eq_error_iff.mpr (Or.inl hread)) (bind_eq_error_iff.mpr (Or.inl hread'))
        hfaults
  | @value value hread hread' =>
      cases hnext value with
      | value hnext hnext' =>
          exact .value (bind_eq_ok_iff.mpr ⟨value, hread, hnext⟩)
            (bind_eq_ok_iff.mpr ⟨value, hread', hnext'⟩)
      | fault hnext hnext' hfaults =>
          exact .fault (bind_eq_error_iff.mpr (Or.inr ⟨value, hread, hnext⟩))
            (bind_eq_error_iff.mpr (Or.inr ⟨value, hread', hnext'⟩)) hfaults

theorem map {reading reading' : Reading Value} (change : Value → Result)
    (hreading : EndAlike faults reading reading') :
    EndAlike faults (change <$> reading) (change <$> reading') := by
  rw [map_eq_pure_bind, map_eq_pure_bind]
  exact hreading.bind fun value => .pure (change value)

/-- Lists of readings that end alike one by one. -/
theorem mapM {read : Item → Reading Value} {read' : Item' → Reading Value} {items : List Item}
    {items' : List Item'}
    (hitems : List.Forall₂ (fun item item' => EndAlike faults (read item) (read' item'))
      items items') : EndAlike faults (items.mapM read) (items'.mapM read') := by
  induction hitems with
  | nil => exact .pure []
  | cons hfirst _ ih =>
      rw [List.mapM_cons, List.mapM_cons]
      exact hfirst.bind fun first => ih.bind fun others => .pure (first :: others)

/-- Groups whose operands end alike one by one. -/
theorem joined {joint : Connective} {read read' : List Token → Reading Sentence}
    {tokens tokens' : List Token}
    (hparts : List.Forall₂ (fun part part' => EndAlike faults (read part) (read' part'))
      (allOperands joint tokens) (allOperands joint tokens')) :
    EndAlike faults (joined joint read tokens) (joined joint read' tokens') := by
  unfold allOperands at hparts
  obtain ⟨hfirst, hothers⟩ := List.forall₂_cons.mp hparts
  exact hfirst.bind fun first => (mapM hothers).bind fun others =>
    .pure (Sentence.group joint first others)

end EndAlike

/-- Readings end alike up to the families of their faults if their outcomes are the same. -/
theorem endAlike_iff_outcome_eq {reading reading' : Reading Value} :
    EndAlike (fun fault fault' => fault.kind = fault'.kind) reading reading' ↔
      reading.outcome = reading'.outcome := by
  constructor
  · intro halike
    cases halike with
    | value hread hread' =>
        rw [outcome_eq_ok_iff.mpr hread, outcome_eq_ok_iff.mpr hread']
    | fault hread hread' hkind =>
        rw [outcome_eq_error_iff.mpr ⟨_, hread, hkind⟩, outcome_eq_error_iff.mpr ⟨_, hread', rfl⟩]
  · intro houtcome
    cases hread : reading.result with
    | ok value =>
        rw [outcome_eq_ok_iff.mpr hread] at houtcome
        exact .value hread (outcome_eq_ok_iff.mp houtcome.symm)
    | error fault =>
        rw [outcome_eq_error_iff.mpr ⟨fault, hread, rfl⟩] at houtcome
        obtain ⟨fault', hread', hkind⟩ := outcome_eq_error_iff.mp houtcome.symm
        exact .fault hread hread' hkind.symm

/-! ## The tokens of a balanced text -/

/-- What all tokens of a balanced text are read as. -/
def Mode.readTokens (mode : Mode) (text : List Char) (tokens : List Token) : Reading Sentence :=
  match mode with
  | .direct => atLevel text .and tokens tokens
  | .clausal => clauses text tokens

theorem Mode.read_of_balanced (mode : Mode) {text : String} (hbalanced : Balanced (scan text)) :
    mode.read text = mode.readTokens text.toList (scan text) := by
  cases mode with
  | direct => rw [read, readTokens, Sentence.read_eq, balanced_of_balanced hbalanced]
  | clausal => rw [read, readTokens, Sentence.readClauses, balanced_of_balanced hbalanced]

/-! ## The symbols decide -/

/-- What becomes of a balanced text is decided by its symbols. -/
theorem Mode.outcome_read_of_balanced (mode : Mode) {text : String}
    (hbalanced : Balanced (scan text)) :
    (mode.read text).outcome = (mode.readTokens [] ((scan text).map unplace)).outcome := by
  rw [mode.read_of_balanced hbalanced]
  cases mode with
  | direct => exact (outcome_atLevel_map keepsSymbols_unplace [] text.toList .and _ _ _).symm
  | clausal => exact (outcome_clauses_map keepsSymbols_unplace [] text.toList _).symm

/-- Texts of the same symbols have one outcome. -/
theorem Mode.outcome_read_of_symbols_eq (mode : Mode) {text text' : String}
    (hsymbols : symbols text.toList = symbols text'.toList) :
    (mode.read text).outcome = (mode.read text').outcome := by
  have hscan : (scan text).map symbol = (scan text').map symbol := by
    rw [map_symbol_scan, map_symbol_scan, hsymbols]
  by_cases hbalanced : Balanced (scan text)
  · have hbalanced' := (balanced_congr hscan).mp hbalanced
    rw [mode.outcome_read_of_balanced hbalanced, mode.outcome_read_of_balanced hbalanced',
      map_unplace, map_unplace, hscan]
  · have hbalanced' := mt (balanced_congr hscan).mpr hbalanced
    obtain ⟨fault, hfault⟩ := exists_imbalance_eq_some hbalanced
    obtain ⟨fault', hfault'⟩ := exists_imbalance_eq_some hbalanced'
    rw [mode.read_of_imbalance hfault, mode.read_of_imbalance hfault']
    rfl

/-! ## The simulation -/

/-- A relation between the ranges of two texts that every step of a reading keeps.  Ranges
are cut, and read as literals, only when nothing encloses them. -/
structure Simulation (text text' : List Char) (faults : ReadError → ReadError → Prop)
    (relates : List Token → List Token → Prop) : Prop where
  strip {tokens tokens' : List Token} (htokens : relates tokens tokens') :
    ∃ inner inner', strip? tokens = some inner ∧ strip? tokens' = some inner' ∧
      relates inner inner'
  operands {tokens tokens' : List Token} (htokens : relates tokens tokens')
    (hbare : enclosure tokens = .bare) (hbare' : enclosure tokens' = .bare) (joint : Connective) :
    List.Forall₂ relates (allOperands joint tokens) (allOperands joint tokens')
  literal {tokens tokens' context context' : List Token} (htokens : relates tokens tokens')
    (hbare : enclosure tokens = .bare) (hbare' : enclosure tokens' = .bare)
    (hcontext : relates context context') :
    EndAlike faults (literal text tokens context) (literal text' tokens' context')

namespace Simulation

variable {text text' : List Char} {relates : List Token → List Token → Prop}
  (hsimulation : Simulation text text' faults relates)
  {tokens tokens' context context' : List Token}
include hsimulation

private theorem joins_eq (htokens : relates tokens tokens') (hbare : enclosure tokens = .bare)
    (hbare' : enclosure tokens' = .bare) (joint : Connective) :
    joins joint tokens = joins joint tokens' := by
  have hlength := (hsimulation.operands htokens hbare hbare' joint).length_eq
  rw [allOperands, allOperands, List.length_cons, List.length_cons, Nat.succ.injEq] at hlength
  rw [joins, joins, Bool.not_inj_iff, Bool.eq_iff_iff, List.isEmpty_iff_length_eq_zero,
    List.isEmpty_iff_length_eq_zero, hlength]

private theorem jointAt_eq (htokens : relates tokens tokens') (hbare : enclosure tokens = .bare)
    (hbare' : enclosure tokens' = .bare) (level : Connective) :
    jointAt level tokens = jointAt level tokens' := by
  rw [jointAt, jointAt, hsimulation.joins_eq htokens hbare hbare',
    hsimulation.joins_eq htokens hbare hbare']

/-- Related ranges are read alike at every level. -/
theorem endAlike_atLevel (level : Connective) (htokens : relates tokens tokens')
    (hcontext : relates context context') :
    EndAlike faults (atLevel text level tokens context) (atLevel text' level tokens' context') := by
  induction level, tokens using level_induction generalizing tokens' context context' with
  | step level tokens ih =>
      obtain ⟨inner, inner', hstrip, hstrip', hinner⟩ := hsimulation.strip htokens
      have hbare := enclosure_of_strip?_eq_some hstrip
      have hbare' := enclosure_of_strip?_eq_some hstrip'
      have hlevel := hsimulation.jointAt_eq hinner hbare hbare' level
      cases hjoint : jointAt level inner with
      | none =>
          rw [atLevel_of_jointAt_eq_none hstrip hjoint,
            atLevel_of_jointAt_eq_none hstrip' (hlevel ▸ hjoint)]
          exact (hsimulation.literal hinner hbare hbare' hcontext).map Sentence.ofLiteral
      | some joint =>
          rw [atLevel_of_jointAt_eq_some hstrip hjoint,
            atLevel_of_jointAt_eq_some hstrip' (hlevel ▸ hjoint)]
          -- the hypothesis of the induction is about the operands of the first range
          have hparts : List.Forall₂ (fun part part' => part ∈ allOperands joint inner ∧
              relates part part') (allOperands joint inner) (allOperands joint inner') := by
            rw [List.forall₂_and_left]
            exact ⟨fun part hpart => hpart, hsimulation.operands hinner hbare hbare' joint⟩
          refine EndAlike.joined (hparts.imp ?_)
          rintro part part' ⟨hpart, hrelated⟩
          exact ih inner joint hstrip hjoint part hpart hrelated hinner

private theorem endAlike_disjunct (htokens : relates tokens tokens')
    (hcontext : relates context context') :
    EndAlike faults (clause.disjunct text context tokens)
      (clause.disjunct text' context' tokens') := by
  obtain ⟨inner, inner', hstrip, hstrip', hinner⟩ := hsimulation.strip htokens
  rw [disjunct_eq, disjunct_eq, strip_eq_pure hstrip, strip_eq_pure hstrip', pure_bind, pure_bind]
  exact (hsimulation.literal hinner (enclosure_of_strip?_eq_some hstrip)
    (enclosure_of_strip?_eq_some hstrip') hcontext).map Sentence.ofLiteral

/-- Related ranges are read alike as clauses. -/
theorem endAlike_clause (htokens : relates tokens tokens') :
    EndAlike faults (clause text tokens) (clause text' tokens') := by
  obtain ⟨inner, inner', hstrip, hstrip', hinner⟩ := hsimulation.strip htokens
  rw [clause_eq, clause_eq, strip_eq_pure hstrip, strip_eq_pure hstrip', pure_bind, pure_bind]
  have hparts := hsimulation.operands hinner (enclosure_of_strip?_eq_some hstrip)
    (enclosure_of_strip?_eq_some hstrip') .or
  exact EndAlike.joined (hparts.imp fun part part' hpart =>
    hsimulation.endAlike_disjunct hpart hinner)

/-- Related ranges are read alike as conjunctions of clauses. -/
theorem endAlike_clauses (htokens : relates tokens tokens') :
    EndAlike faults (clauses text tokens) (clauses text' tokens') := by
  obtain ⟨inner, inner', hstrip, hstrip', hinner⟩ := hsimulation.strip htokens
  rw [clauses_eq, clauses_eq, strip_eq_pure hstrip, strip_eq_pure hstrip', pure_bind, pure_bind]
  have hparts := hsimulation.operands hinner (enclosure_of_strip?_eq_some hstrip)
    (enclosure_of_strip?_eq_some hstrip') .and
  exact EndAlike.joined (hparts.imp fun part part' hpart => hsimulation.endAlike_clause hpart)

/-- Texts whose tokens are related are read alike in either mode. -/
theorem endAlike_readTokens (mode : Mode) (htokens : relates tokens tokens') :
    EndAlike faults (mode.readTokens text tokens) (mode.readTokens text' tokens') := by
  cases mode with
  | direct => exact hsimulation.endAlike_atLevel .and htokens htokens
  | clausal => exact hsimulation.endAlike_clauses htokens

end Simulation

end Reading

end Clausal
