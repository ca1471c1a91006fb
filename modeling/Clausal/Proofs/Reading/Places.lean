import Clausal.Proofs.Reading.Faults

/-!
# The places of the literals

Which connective a range is cut at first depends on where the range stands, so the sentence
that is read depends on it, too.  What is refused does not.  Cutting at one connective and then
at the other gives the same parts as cutting at both at once (`parts_or`), and so a reading at
either level comes to the same ranges as literals, from left to right: the `places` of the
range, which are defined without a level.

Readings are composed in sequence, so a range is refused for the first of its places that is
refused (`grounds?_atLevel`).  Of the fault this keeps the `ReadError.Grounds`: what is quoted
of a missing literal is the range around it, and that does depend on the level.
-/

namespace Clausal

/-- What is the same of a fault wherever its literal stands: its family, and the operand if it
is refused as no literal.  What is quoted of a missing literal is the range that should hold
it. -/
structure ReadError.Grounds where
  kind : ReadError.Kind
  operand? : Option String
  deriving DecidableEq

/-- The grounds of a fault. -/
def ReadError.grounds (fault : ReadError) : ReadError.Grounds :=
  ⟨fault.kind, if fault.kind = .unexpectedLiteral then fault.fragment? else none⟩

theorem ReadError.grounds_eq_iff {fault fault' : ReadError} :
    fault.grounds = fault'.grounds ↔ fault.kind = fault'.kind ∧
      (fault.kind = .unexpectedLiteral → fault.fragment? = fault'.fragment?) := by
  rw [grounds, grounds, Grounds.mk.injEq]
  refine and_congr_right fun hkind => ?_
  rw [← hkind]
  by_cases hunexpected : fault.kind = .unexpectedLiteral <;> simp [hunexpected]

namespace Grouping

/-! ## Cutting at both connectives -/

private theorem splitWithin_or (first second : Token.Kind → Bool) (opened : Int)
    (tokens : List Token) :
    splitWithin (fun kind => first kind || second kind) opened tokens =
      ((splitWithin second opened (splitWithin first opened tokens).1).1,
        (splitWithin second opened (splitWithin first opened tokens).1).2 ++
          (splitWithin first opened tokens).2.flatMap (parts second)) := by
  induction tokens generalizing opened with
  | nil => rfl
  | cons token rest ih =>
      by_cases hfirst : weight token = 0 ∧ opened = 0 ∧ first token.kind = true
      · have hboth : weight token = 0 ∧ opened = 0 ∧
            (first token.kind || second token.kind) = true := by simp [hfirst]
        -- what the second cut makes of the first part of the rest is now a part of its own
        rw [splitWithin_cons_of_cut hboth, splitWithin_cons_of_cut hfirst, ih, hfirst.2.1]
        rfl
      · rw [splitWithin_cons_of_not_cut hfirst]
        by_cases hsecond : weight token = 0 ∧ opened = 0 ∧ second token.kind = true
        · have hboth : weight token = 0 ∧ opened = 0 ∧
              (first token.kind || second token.kind) = true := by simp [hsecond]
          rw [splitWithin_cons_of_cut hboth, splitWithin_cons_of_cut hsecond, ih, hsecond.1,
            Int.add_zero]
          rfl
        · have hboth : ¬ (weight token = 0 ∧ opened = 0 ∧
              (first token.kind || second token.kind) = true) := by
            rw [Bool.or_eq_true]
            tauto
          rw [splitWithin_cons_of_not_cut hboth, splitWithin_cons_of_not_cut hsecond, ih]

/-- To cut at either of two kinds is to cut at the one and then the parts at the other. -/
theorem parts_or (first second : Token.Kind → Bool) (tokens : List Token) :
    parts (fun kind => first kind || second kind) tokens =
      (parts first tokens).flatMap (parts second) := by
  rw [parts, split, splitWithin_or]
  rfl

/-- Both connectives separate. -/
def isConnective (kind : Token.Kind) : Bool :=
  kind = .connective .and || kind = .connective .or

/-- It does not matter which connective a range is cut at first. -/
theorem parts_isConnective (joint : Connective) (tokens : List Token) :
    parts isConnective tokens = (allOperands joint tokens).flatMap (allOperands joint.other) := by
  cases joint with
  | and => exact parts_or _ _ tokens
  | or =>
      have hcomm : isConnective = fun kind =>
          decide (kind = .connective .or) || decide (kind = .connective .and) :=
        funext fun kind => Bool.or_comm ..
      rw [hcomm]
      exact parts_or _ _ tokens

theorem isCompound_iff_exists_joins {tokens : List Token} :
    isCompound tokens = true ↔ ∃ joint, joins joint tokens = true := by
  rw [isCompound, Bool.or_eq_true]
  constructor
  · rintro (hand | hor)
    exacts [⟨.and, hand⟩, ⟨.or, hor⟩]
  · rintro ⟨_ | _, hjoins⟩
    exacts [Or.inr hjoins, Or.inl hjoins]

section Relabel

variable {relabel : Token → Token} (hkeeps : Token.KeepsSymbols relabel)
include hkeeps

theorem parts_map (separates : Token.Kind → Bool) (tokens : List Token) :
    parts separates (tokens.map relabel) = (parts separates tokens).map (List.map relabel) := by
  rw [parts, split_map hkeeps]
  rfl

theorem isCompound_map (tokens : List Token) :
    isCompound (tokens.map relabel) = isCompound tokens := by
  rw [isCompound, joins_map hkeeps, joins_map hkeeps, ← isCompound]

end Relabel

end Grouping

namespace Reading

open Grouping

/-! ## Places -/

theorem connectiveCount_le {joint : Connective} {tokens part : List Token}
    (hpart : part ∈ allOperands joint tokens) : connectiveCount part ≤ connectiveCount tokens := by
  cases hjoins : joins joint tokens with
  | true => exact Nat.le_of_lt (connectiveCount_lt hjoins hpart)
  | false =>
      rw [allOperands, operands_eq_self hjoins, List.mem_singleton] at hpart
      exact Nat.le_of_eq (congrArg connectiveCount hpart)

theorem connectiveCount_lt_of_isCompound {tokens part : List Token}
    (hcompound : isCompound tokens = true) (hpart : part ∈ parts isConnective tokens) :
    connectiveCount part < connectiveCount tokens := by
  obtain ⟨joint, hjoins⟩ := isCompound_iff_exists_joins.mp hcompound
  rw [parts_isConnective joint, List.mem_flatMap] at hpart
  obtain ⟨operand, hoperand, hpart⟩ := hpart
  exact Nat.lt_of_le_of_lt (connectiveCount_le hpart) (connectiveCount_lt hjoins hoperand)

/-- The ranges that are read as literals when a range is read, from left to right.  A torn
range is not read. -/
def places (tokens : List Token) : List (List Token) :=
  match _hstrip : strip? tokens with
  | none => []
  | some inner =>
    if _hcompound : isCompound inner then
      (parts isConnective inner).attach.flatMap fun part => places part.1
    else [inner]
termination_by connectiveCount tokens
decreasing_by
  rw [← connectiveCount_of_strip? _hstrip]
  exact connectiveCount_lt_of_isCompound _hcompound part.2

section Places

variable {tokens inner : List Token}

theorem places_of_torn (htorn : strip? tokens = none) : places tokens = [] := by
  rw [places]
  split <;> simp_all

theorem places_of_not_compound (hstrip : strip? tokens = some inner)
    (hcompound : isCompound inner = false) : places tokens = [inner] := by
  rw [places]
  split <;> simp_all

theorem places_of_compound (hstrip : strip? tokens = some inner)
    (hcompound : isCompound inner = true) :
    places tokens = (parts isConnective inner).flatMap places := by
  rw [places]
  split
  · simp_all
  · next inner' hstrip' =>
      obtain rfl : inner = inner' := by simpa [hstrip] using hstrip'
      rw [dif_pos hcompound, List.flatMap_subtype (fun _ _ => rfl), List.unattach_attach]

/-- Pairs around a range enclose the same places. -/
theorem places_of_strip?_eq {other : List Token} (hstrip : strip? tokens = strip? other) :
    places tokens = places other := by
  cases hother : strip? other with
  | none => rw [places_of_torn hother, places_of_torn (hstrip.trans hother)]
  | some inner =>
      cases hcompound : isCompound inner with
      | true => rw [places_of_compound hother hcompound,
          places_of_compound (hstrip.trans hother) hcompound]
      | false => rw [places_of_not_compound hother hcompound,
          places_of_not_compound (hstrip.trans hother) hcompound]

/-- A part between two tokens of one connective has the places that are found when it is cut
at the other. -/
theorem flatMap_places_of_not_joins {joint : Connective} (hbalanced : Balanced tokens)
    (hjoins : joins joint tokens = false) :
    (allOperands joint.other tokens).flatMap places = places tokens := by
  cases hother : joins joint.other tokens with
  | true =>
      have hcompound := isCompound_iff_exists_joins.mpr ⟨joint.other, hother⟩
      rw [places_of_compound (hbalanced.strip?_of_joins hother) hcompound,
        parts_isConnective joint, allOperands.eq_1 joint, operands_eq_self hjoins,
        List.flatMap_singleton]
  | false => rw [allOperands, operands_eq_self hother, List.flatMap_singleton]

/-- The places of a group are those of its operands, whichever connective joins it. -/
theorem flatMap_places {joint : Connective} (hbalanced : Balanced tokens)
    (hjoins : joins joint tokens = true) :
    (allOperands joint tokens).flatMap places = places tokens := by
  have hcompound := isCompound_iff_exists_joins.mpr ⟨joint, hjoins⟩
  rw [places_of_compound (hbalanced.strip?_of_joins hjoins) hcompound, parts_isConnective joint,
    List.flatMap_assoc]
  refine List.flatMap_congr fun part hpart => ?_
  exact (flatMap_places_of_not_joins (hbalanced.of_mem_allOperands hpart)
    (not_joins_of_mem_allOperands hpart)).symm

example : (places (Token.scan "A ^ ~(B v C) v (D ^ )")).map (List.map Token.symbol) =
    [['A'], ['~', '(', 'B', 'v', 'C', ')'], ['D'], []] := by
  decide +kernel

end Places

/-- A place has what its range has and every step of a reading keeps. -/
theorem Hereditary.of_mem_places {holds : List Token → Prop} (hholds : Hereditary holds)
    {tokens place : List Token} (htokens : holds tokens) (hplace : place ∈ places tokens) :
    holds place := by
  induction tokens using places.induct with
  | case1 tokens htorn => simp [places_of_torn htorn] at hplace
  | case2 tokens inner hstrip hcompound ih =>
      rw [places_of_compound hstrip hcompound, List.mem_flatMap] at hplace
      obtain ⟨part, hpart, hplace⟩ := hplace
      refine ih ⟨part, hpart⟩ ?_ hplace
      rw [parts_isConnective .and, List.mem_flatMap] at hpart
      obtain ⟨operand, hoperand, hpart⟩ := hpart
      exact hholds.operand (hholds.operand (hholds.strip htokens hstrip) hoperand) hpart
  | case3 tokens inner hstrip hcompound =>
      rw [places_of_not_compound hstrip (Bool.eq_false_iff.mpr hcompound),
        List.mem_singleton] at hplace
      exact hplace ▸ hholds.strip htokens hstrip

/-- The places do not depend on where the range stands. -/
theorem places_map {relabel : Token → Token} (hkeeps : Token.KeepsSymbols relabel)
    (tokens : List Token) :
    places (tokens.map relabel) = (places tokens).map (List.map relabel) := by
  have hstrip' {tokens inner : List Token} (hstrip : strip? tokens = some inner) :
      strip? (tokens.map relabel) = some (inner.map relabel) := by
    rw [strip?_map hkeeps, hstrip, Option.map_some]
  induction tokens using places.induct with
  | case1 tokens htorn =>
      rw [places_of_torn htorn, places_of_torn (by rw [strip?_map hkeeps, htorn, Option.map_none]),
        List.map_nil]
  | case2 tokens inner hstrip hcompound ih =>
      rw [places_of_compound (hstrip' hstrip) ((isCompound_map hkeeps inner).trans hcompound),
        places_of_compound hstrip hcompound, parts_map hkeeps, List.flatMap_map, List.map_flatMap]
      exact List.flatMap_congr fun part hpart => ih ⟨part, hpart⟩
  | case3 tokens inner hstrip hcompound =>
      have hcompound := Bool.eq_false_iff.mpr hcompound
      rw [places_of_not_compound (hstrip' hstrip) ((isCompound_map hkeeps inner).trans hcompound),
        places_of_not_compound hstrip hcompound, List.map_singleton]

/-! ## The grounds of a refusal -/

variable {Value Result Item : Type}

/-- The grounds on which a reading ends, if it ends with a fault. -/
def grounds? (reading : Reading Value) : Option ReadError.Grounds :=
  match reading.result with
  | .ok _ => none
  | .error fault => some fault.grounds

theorem grounds?_eq_none_iff {reading : Reading Value} :
    reading.grounds? = none ↔ reading.Succeeds := by
  unfold grounds? Succeeds
  cases reading.result <;> simp

theorem grounds?_eq_some_iff {reading : Reading Value} {grounds : ReadError.Grounds} :
    reading.grounds? = some grounds ↔
      ∃ fault, reading.result = .error fault ∧ fault.grounds = grounds := by
  unfold grounds?
  cases reading.result <;> simp

@[simp] theorem grounds?_pure (value : Value) : (pure value : Reading Value).grounds? = none := rfl

/-- What comes second is refused only if what comes first is not. -/
theorem grounds?_bind {reading : Reading Value} {next : Value → Reading Result}
    {rest : Option ReadError.Grounds} (hnext : ∀ value, (next value).grounds? = rest) :
    (reading >>= next).grounds? = reading.grounds?.or rest := by
  cases hresult : reading.result with
  | ok value => simpa [bind_of_ok hresult, grounds?, hresult] using hnext value
  | error fault => simp [bind_of_error hresult, grounds?, hresult]

theorem grounds?_map (change : Value → Result) (reading : Reading Value) :
    (change <$> reading).grounds? = reading.grounds? := by
  rw [map_eq_pure_bind, grounds?_bind fun value => grounds?_pure (change value), Option.or_none]

/-- Of a list of readings the first one that is refused decides. -/
theorem grounds?_mapM (read : Item → Reading Value) (items : List Item) :
    (items.mapM read).grounds? = items.findSome? fun item => (read item).grounds? := by
  induction items with
  | nil => rfl
  | cons item rest ih =>
      rw [List.mapM_cons, List.findSome?_cons, ← ih,
        grounds?_bind fun value => (grounds?_bind fun values => grounds?_pure _)]
      cases (read item).grounds? <;> simp

theorem grounds?_joined (joint : Connective) (read : List Token → Reading Sentence)
    (tokens : List Token) :
    (joined joint read tokens).grounds? =
      (allOperands joint tokens).findSome? fun part => (read part).grounds? := by
  rw [joined, allOperands, List.findSome?_cons, ← grounds?_mapM,
    grounds?_bind fun first => (grounds?_bind fun others => grounds?_pure _)]
  cases (read (operands joint tokens).1).grounds? <;> simp

/-- On what grounds a literal is refused does not depend on its context. -/
theorem grounds?_literal (text : List Char) (tokens context : List Token) :
    (literal text tokens context).grounds? = (literal text tokens []).grounds? := by
  cases tokens <;> rfl

/-! ## The main statement -/

theorem findSome?_eq_of_forall₂ {Item' Found : Type} {search : Item → Option Found}
    {search' : Item' → Option Found} {items : List Item} {items' : List Item'}
    (hitems : List.Forall₂ (fun item item' => search item = search' item') items items') :
    items.findSome? search = items'.findSome? search' := by
  induction hitems with
  | nil => rfl
  | cons hfirst _ ih => rw [List.findSome?_cons, List.findSome?_cons, hfirst, ih]

/-- A search through lists one after the other is a search through all of them. -/
theorem findSome?_flatMap {Found : Type} (list : Item → List Value) (found : Value → Option Found)
    (items : List Item) :
    (items.flatMap list).findSome? found =
      items.findSome? fun item => (list item).findSome? found := by
  induction items with
  | nil => rfl
  | cons item rest ih =>
      rw [List.flatMap_cons, List.findSome?_append, List.findSome?_cons, ih]
      cases (list item).findSome? found <;> rfl

/-- **The first refused place.**  At either level and in every context, a balanced range is
refused on the grounds of the first of its places that is no literal. -/
theorem grounds?_atLevel (text : List Char) (level : Connective) {tokens : List Token}
    (htokens : Balanced tokens) (context : List Token) :
    (atLevel text level tokens context).grounds? =
      (places tokens).findSome? fun place => (literal text place []).grounds? := by
  induction level, tokens using level_induction generalizing context with
  | step level tokens ih =>
      obtain ⟨inner, hstrip, hinner⟩ := htokens.exists_strip?_eq_some
      have hplaces : places tokens = places inner :=
        places_of_strip?_eq (hstrip.trans (strip?_of_strip?_eq_some hstrip).symm)
      cases hjoint : jointAt level inner with
      | none =>
          have hcompound : isCompound inner = false := by
            rw [isCompound_eq_isSome_jointAt level, hjoint, Option.isSome_none]
          rw [atLevel_of_jointAt_eq_none hstrip hjoint, grounds?_map, grounds?_literal,
            places_of_not_compound hstrip hcompound, List.findSome?_singleton]
      | some joint =>
          rw [atLevel_of_jointAt_eq_some hstrip hjoint, grounds?_joined, hplaces,
            ← flatMap_places hinner (joins_of_jointAt_eq_some hjoint), findSome?_flatMap]
          refine findSome?_eq_of_forall₂ (List.forall₂_same.mpr fun part hpart => ?_)
          exact ih inner joint hstrip hjoint part hpart (hinner.of_mem_allOperands hpart) inner

end Reading

end Clausal
