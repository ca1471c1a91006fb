import Clausal.Proofs.Grouping.Relabelling
import Clausal.Proofs.Reading.Levels
import Mathlib.Data.List.Forall2

/-!
# What becomes of a reading

The outcome of a reading is its value or the family of its fault; the literals
settled on the way and the quoted part of the text are left out.  Taking the outcome
commutes with composing readings, so outcomes are computed along the readings.

The outcome of a range depends on its symbols only (`outcome_atLevel`): neither on
the text that is quoted, nor on positions, nor on the context.  `verdict` is that
function of the symbols.
-/

namespace Clausal

namespace Reading

variable {Value Result Item : Type}

/-- The value of a reading, or the family of its fault. -/
def outcome (reading : Reading Value) : Except ReadError.Kind Value :=
  reading.result.mapError ReadError.kind

/-- The reading ends with a value. -/
def Succeeds (reading : Reading Value) : Prop := ∃ value, reading.result = .ok value

theorem outcome_eq_ok_iff {reading : Reading Value} {value : Value} :
    reading.outcome = .ok value ↔ reading.result = .ok value := by
  unfold outcome
  cases reading.result <;> simp [Except.mapError]

theorem outcome_eq_error_iff {reading : Reading Value} {kind : ReadError.Kind} :
    reading.outcome = .error kind ↔ ∃ fault, reading.result = .error fault ∧ fault.kind = kind := by
  unfold outcome
  cases reading.result <;> simp [Except.mapError]

theorem succeeds_iff {reading : Reading Value} :
    reading.Succeeds ↔ ∃ value, reading.outcome = .ok value :=
  exists_congr fun _ => outcome_eq_ok_iff.symm

/-! ## Composed readings -/

@[simp] theorem outcome_pure (value : Value) : (pure value : Reading Value).outcome = .ok value :=
  rfl

@[simp] theorem outcome_fail (fault : ReadError) :
    (fail fault : Reading Value).outcome = .error fault.kind :=
  rfl

theorem outcome_bind (reading : Reading Value) (next : Value → Reading Result) :
    (reading >>= next).outcome = reading.outcome >>= fun value => (next value).outcome := by
  cases hresult : reading.result with
  | ok value =>
      rw [bind_of_ok hresult, outcome_eq_ok_iff.mpr hresult]
      rfl
  | error fault =>
      rw [bind_of_error hresult, outcome_eq_error_iff.mpr ⟨fault, hresult, rfl⟩]
      rfl

theorem outcome_map (change : Value → Result) (reading : Reading Value) :
    (change <$> reading).outcome = change <$> reading.outcome := by
  rw [map_eq_pure_bind, outcome_bind, map_eq_pure_bind]
  rfl

theorem outcome_mapM (read : Item → Reading Value) (items : List Item) :
    (items.mapM read).outcome = items.mapM fun item => (read item).outcome := by
  induction items with
  | nil => rfl
  | cons item rest ih =>
      simp only [List.mapM_cons, outcome_bind, ih, outcome_pure]
      rfl

/-! ## Values -/

theorem bind_eq_ok_iff {reading : Reading Value} {next : Value → Reading Result} {result : Result} :
    (reading >>= next).result = .ok result ↔
      ∃ value, reading.result = .ok value ∧ (next value).result = .ok result := by
  cases hresult : reading.result with
  | ok value => simp [bind_of_ok hresult]
  | error fault => simp [bind_of_error hresult]

theorem map_eq_ok_iff {change : Value → Result} {reading : Reading Value} {result : Result} :
    (change <$> reading).result = .ok result ↔
      ∃ value, reading.result = .ok value ∧ change value = result := by
  rw [map_eq_pure_bind, bind_eq_ok_iff]
  simp only [result_pure, Except.ok.injEq]

theorem exists_mem_of_forall₂ {relates : Item → Value → Prop} {items : List Item}
    {values : List Value} (hrelates : List.Forall₂ relates items values) {item : Item}
    (hitem : item ∈ items) : ∃ value ∈ values, relates item value := by
  induction hrelates with
  | nil => simp at hitem
  | cons hfirst _ ih =>
      rcases List.mem_cons.mp hitem with rfl | hrest
      · exact ⟨_, List.mem_cons_self, hfirst⟩
      · obtain ⟨value, hvalue, hrelated⟩ := ih hrest
        exact ⟨value, List.mem_cons_of_mem _ hvalue, hrelated⟩

theorem mapM_eq_ok_iff {Item Value Fault : Type} {run : Item → Except Fault Value}
    {items : List Item} {values : List Value} :
    items.mapM run = .ok values ↔
      List.Forall₂ (fun item value => run item = .ok value) items values := by
  induction items generalizing values with
  | nil =>
      rw [List.mapM_nil, List.forall₂_nil_left_iff]
      constructor
      · intro hvalues
        exact (Except.ok.inj hvalues).symm
      · intro hvalues
        rw [hvalues]
        rfl
  | cons item rest ih =>
      rw [List.mapM_cons, List.forall₂_cons_left_iff]
      cases hitem : run item with
      | error fault => simp [bind, Except.bind]
      | ok value =>
          cases hrest : rest.mapM run with
          | error fault =>
              rw [hrest] at ih
              simp [bind, Except.bind, ← ih]
          | ok others =>
              rw [hrest] at ih
              simp [bind, Except.bind, pure, Except.pure, ← ih, eq_comm]

theorem succeeds_pure (value : Value) : (pure value : Reading Value).Succeeds := ⟨value, rfl⟩

theorem not_succeeds_fail (fault : ReadError) : ¬ (fail fault : Reading Value).Succeeds := by
  rintro ⟨value, hvalue⟩
  simp at hvalue

theorem succeeds_bind {reading : Reading Value} {next : Value → Reading Result} :
    (reading >>= next).Succeeds ↔ ∃ value, reading.result = .ok value ∧ (next value).Succeeds := by
  unfold Succeeds
  simp only [bind_eq_ok_iff]
  constructor
  · rintro ⟨result, value, hvalue, hresult⟩
    exact ⟨value, hvalue, result, hresult⟩
  · rintro ⟨value, hvalue, result, hresult⟩
    exact ⟨result, value, hvalue, hresult⟩

theorem succeeds_map {change : Value → Result} {reading : Reading Value} :
    (change <$> reading).Succeeds ↔ reading.Succeeds := by
  rw [map_eq_pure_bind, succeeds_bind]
  exact exists_congr fun value => and_iff_left (succeeds_pure _)

theorem succeeds_mapM {read : Item → Reading Value} {items : List Item} :
    (items.mapM read).Succeeds ↔ ∀ item ∈ items, (read item).Succeeds := by
  induction items with
  | nil => simp [succeeds_pure]
  | cons item rest ih =>
      rw [List.mapM_cons, List.forall_mem_cons, ← ih, succeeds_bind]
      constructor
      · rintro ⟨value, hvalue, hrest⟩
        obtain ⟨values, hvalues, -⟩ := succeeds_bind.mp hrest
        exact ⟨⟨value, hvalue⟩, values, hvalues⟩
      · rintro ⟨⟨value, hvalue⟩, values, hvalues⟩
        exact ⟨value, hvalue, succeeds_bind.mpr ⟨values, hvalues, succeeds_pure _⟩⟩

open Grouping

theorem outcome_joined (joint : Connective) (read : List Token → Reading Sentence)
    (tokens : List Token) :
    (joined joint read tokens).outcome =
      ((read (operands joint tokens).1).outcome >>= fun first =>
        ((operands joint tokens).2.mapM fun part => (read part).outcome) >>= fun others =>
          .ok (.group joint first others)) := by
  simp only [joined, outcome_bind, outcome_mapM, outcome_pure]

/-- A group is read from its operands, each of which is read. -/
theorem joined_eq_ok_iff {joint : Connective} {read : List Token → Reading Sentence}
    {tokens : List Token} {sentence : Sentence} :
    (joined joint read tokens).result = .ok sentence ↔ ∃ first others,
      sentence = .group joint first others ∧
        (read (operands joint tokens).1).result = .ok first ∧
          List.Forall₂ (fun part other => (read part).result = .ok other)
            (operands joint tokens).2 others := by
  simp only [← outcome_eq_ok_iff, outcome_joined, ← mapM_eq_ok_iff]
  cases (read (operands joint tokens).1).outcome with
  | error kind => simp [bind, Except.bind]
  | ok first =>
      cases (operands joint tokens).2.mapM fun part => (read part).outcome with
      | error kind => simp [bind, Except.bind]
      | ok others => simp [bind, Except.bind, eq_comm]

/-- A group is read if all its operands are. -/
theorem succeeds_joined {joint : Connective} {read : List Token → Reading Sentence}
    {tokens : List Token} :
    (joined joint read tokens).Succeeds ↔ ∀ part ∈ allOperands joint tokens,
      (read part).Succeeds := by
  rw [allOperands, List.forall_mem_cons, ← succeeds_mapM, joined, succeeds_bind]
  constructor
  · rintro ⟨first, hfirst, hrest⟩
    obtain ⟨others, hothers, -⟩ := succeeds_bind.mp hrest
    exact ⟨⟨first, hfirst⟩, others, hothers⟩
  · rintro ⟨⟨first, hfirst⟩, others, hothers⟩
    exact ⟨first, hfirst, succeeds_bind.mpr ⟨others, hothers, succeeds_pure _⟩⟩

/-! ## Only the symbols matter -/

variable {relabel : Token → Token}

theorem letter?_relabel (hkeeps : Token.KeepsSymbols relabel) (token : Token) :
    (relabel token).letter? = token.letter? := by
  simp only [Token.letter?, hkeeps token]

theorem outcome_atom_map (hkeeps : Token.KeepsSymbols relabel) (text text' : List Char)
    (negated : Bool) (tokens : List Token) :
    (atom text negated (tokens.map relabel)).outcome = (atom text' negated tokens).outcome := by
  rcases tokens with _ | ⟨token, _ | ⟨second, rest⟩⟩
  · rfl
  · rw [List.map_singleton, atom, atom, letter?_relabel hkeeps]
    cases token.letter? <;> rfl
  · rfl

theorem outcome_strip_map (hkeeps : Token.KeepsSymbols relabel) (tokens : List Token) :
    (strip (tokens.map relabel)).outcome = (strip tokens).outcome.map (List.map relabel) := by
  rw [strip, strip, strip?_map hkeeps]
  cases strip? tokens <;> rfl

theorem outcome_strip_bind_map (hkeeps : Token.KeepsSymbols relabel)
    {next next' : List Token → Reading Value}
    (hnext : ∀ inner, (next (inner.map relabel)).outcome = (next' inner).outcome)
    (tokens : List Token) :
    (strip (tokens.map relabel) >>= next).outcome = (strip tokens >>= next').outcome := by
  rw [outcome_bind, outcome_bind, outcome_strip_map hkeeps]
  cases (strip tokens).outcome with
  | error kind => rfl
  | ok inner => exact hnext inner

theorem outcome_literal_map (hkeeps : Token.KeepsSymbols relabel) (text text' : List Char)
    (tokens context context' : List Token) :
    (literal text (tokens.map relabel) context).outcome =
      (literal text' tokens context').outcome := by
  cases tokens with
  | nil => rfl
  | cons first rest =>
      rw [List.map_cons, literal, literal, hkeeps.kind_eq]
      by_cases hnot : first.kind = .not
      · rw [if_pos hnot, if_pos hnot]
        refine outcome_strip_bind_map hkeeps (fun inner => ?_) rest
        cases inner with
        | nil => rfl
        | cons head tail => exact outcome_atom_map hkeeps text text' true (head :: tail)
      · rw [if_neg hnot, if_neg hnot]
        exact outcome_atom_map hkeeps text text' false (first :: rest)

theorem jointAt_map (hkeeps : Token.KeepsSymbols relabel) (level : Connective)
    (tokens : List Token) : jointAt level (tokens.map relabel) = jointAt level tokens := by
  rw [jointAt, jointAt, joins_map hkeeps, joins_map hkeeps]

theorem outcome_joined_map (hkeeps : Token.KeepsSymbols relabel) {joint : Connective}
    {read read' : List Token → Reading Sentence} {tokens : List Token}
    (hread : ∀ part ∈ allOperands joint tokens,
      (read (part.map relabel)).outcome = (read' part).outcome) :
    (joined joint read (tokens.map relabel)).outcome = (joined joint read' tokens).outcome := by
  rw [allOperands, List.forall_mem_cons] at hread
  rw [outcome_joined, outcome_joined, operands_map hkeeps, hread.1]
  simp only [List.mapM_map, Function.comp_def]
  rw [mapM_congr_of_mem hread.2]

theorem outcome_atLevel_map (hkeeps : Token.KeepsSymbols relabel) (text text' : List Char)
    (level : Connective) (tokens context context' : List Token) :
    (atLevel text level (tokens.map relabel) context).outcome =
      (atLevel text' level tokens context').outcome := by
  induction level, tokens using level_induction generalizing context context' with
  | step level tokens ih =>
      cases hstrip : strip? tokens with
      | none =>
          have hstrip' : strip? (tokens.map relabel) = none := by
            rw [strip?_map hkeeps, hstrip, Option.map_none]
          rw [atLevel_of_torn hstrip, atLevel_of_torn hstrip', outcome_fail]
      | some inner =>
          have hstrip' : strip? (tokens.map relabel) = some (inner.map relabel) := by
            rw [strip?_map hkeeps, hstrip, Option.map_some]
          cases hjoint : jointAt level inner with
          | none =>
              have hjoint' := (jointAt_map hkeeps level inner).trans hjoint
              rw [atLevel_of_jointAt_eq_none hstrip hjoint,
                atLevel_of_jointAt_eq_none hstrip' hjoint', outcome_map, outcome_map,
                outcome_literal_map hkeeps]
          | some joint =>
              have hjoint' := (jointAt_map hkeeps level inner).trans hjoint
              rw [atLevel_of_jointAt_eq_some hstrip hjoint,
                atLevel_of_jointAt_eq_some hstrip' hjoint']
              refine outcome_joined_map hkeeps fun part hpart => ?_
              exact ih inner joint hstrip hjoint part hpart (inner.map relabel) inner

/-- What becomes of some symbols that are read at a level. -/
def verdict (level : Connective) (symbols : List Char) : Except ReadError.Kind Sentence :=
  (atLevel [] level (Token.unplaced symbols) []).outcome

/-- What becomes of a range is decided by its symbols. -/
theorem outcome_atLevel (text : List Char) (level : Connective) (tokens context : List Token) :
    (atLevel text level tokens context).outcome = verdict level (tokens.map Token.symbol) := by
  rw [verdict, ← Token.map_unplace, outcome_atLevel_map Token.keepsSymbols_unplace]

end Reading

end Clausal
