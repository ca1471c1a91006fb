import Clausal.Proofs.Grouping.Parts
import Clausal.Reading.Sentence

/-!
# Reading at a level

`Reading.sentence`, `Reading.disjunction` and `Reading.operand` call one another on
a budget.  The proofs about them use one function without a budget instead:
`Reading.atLevel text level tokens context`, where the level is the connective that
is looked for first.  A sentence is read at the level of `and`, a disjunction at the
level of `or`, and an operand like a sentence; an operand of a group is read at the
level of the *other* connective (`atLevel_eq`).  So which connective wins in a range
depends on where the range stands.

`atLevel` is defined by a budget that suffices, and `sentence_eq_atLevel` and its two
companions say that every larger budget gives the same.  Induction over ranges goes
by `level_induction`: from the operands of what is left of a range, when its
enclosing pairs are taken away, to the range itself.  Both hold for every range,
balanced or not.
-/

namespace Clausal

/-- The connective that is looked for when this one does not occur. -/
def Connective.other : Connective → Connective
  | .or => .and
  | .and => .or

namespace Grouping

/-- The connective that joins a range, when one is looked for first and then the
other. -/
def jointAt (level : Connective) (tokens : List Token) : Option Connective :=
  if joins level tokens then some level
  else if joins level.other tokens then some level.other
  else none

theorem jointAt_of_joins {level : Connective} {tokens : List Token}
    (hjoins : joins level tokens = true) : jointAt level tokens = some level := by
  rw [jointAt, if_pos hjoins]

theorem jointAt_of_not_joins {level : Connective} {tokens : List Token}
    (hjoins : joins level tokens = false) :
    jointAt level tokens = if joins level.other tokens then some level.other else none := by
  rw [jointAt, if_neg (by simp [hjoins])]

/-- The connective found does join the range. -/
theorem joins_of_jointAt_eq_some {level joint : Connective} {tokens : List Token}
    (hjoint : jointAt level tokens = some joint) : joins joint tokens = true := by
  unfold jointAt at hjoint
  split at hjoint
  · next hjoins => exact Option.some.inj hjoint ▸ hjoins
  · split at hjoint
    · next hjoins => exact Option.some.inj hjoint ▸ hjoins
    · simp at hjoint

theorem isCompound_eq_isSome_jointAt (level : Connective) (tokens : List Token) :
    isCompound tokens = (jointAt level tokens).isSome := by
  cases level <;> cases hand : joins .and tokens <;> cases hor : joins .or tokens <;>
    simp [isCompound, jointAt, Connective.other, hand, hor]

end Grouping

namespace Reading

open Grouping

/-! ## The number of connectives -/

theorem connectiveCount_of_wraps {tokens inner : List Token} (hwraps : Wraps tokens inner) :
    connectiveCount inner = connectiveCount tokens := by
  unfold connectiveCount
  induction hwraps with
  | bare => rfl
  | pair hopening hclosing _ ih => simp [ih, hopening, hclosing]

theorem connectiveCount_of_strip? {tokens inner : List Token}
    (hstrip : strip? tokens = some inner) : connectiveCount inner = connectiveCount tokens :=
  connectiveCount_of_wraps (wraps_of_strip?_eq_some hstrip)

/-- An operand holds fewer connectives than the range that joins it to others. -/
theorem connectiveCount_lt {joint : Connective} {tokens part : List Token}
    (hjoins : joins joint tokens = true) (hpart : part ∈ allOperands joint tokens) :
    connectiveCount part < connectiveCount tokens := by
  have hothers := List.length_pos_iff.mpr (joins_eq_true_iff.mp hjoins)
  have hcount : part.countP (fun token =>
      token.kind = .connective .and || token.kind = .connective .or) +
        (operands joint tokens).2.length ≤ _ :=
    countP_add_length_le (by cases joint <;> simp_all) hpart
  unfold connectiveCount
  omega

/-! ## One call of each function -/

/-- Reads the operands of a range one by one and joins them. -/
def joined (joint : Connective) (read : List Token → Reading Sentence) (tokens : List Token) :
    Reading Sentence := do
  let first ← read (operands joint tokens).1
  let others ← (operands joint tokens).2.mapM read
  pure (.group joint first others)

theorem mapM_congr_of_mem {Item Value : Type} {Effect : Type → Type} [Monad Effect]
    [LawfulMonad Effect] {items : List Item} {run run' : Item → Effect Value}
    (hrun : ∀ item ∈ items, run item = run' item) : items.mapM run = items.mapM run' := by
  induction items with
  | nil => rfl
  | cons item rest ih =>
      rw [List.forall_mem_cons] at hrun
      rw [List.mapM_cons, List.mapM_cons, hrun.1, ih hrun.2]

theorem joined_congr {joint : Connective} {tokens : List Token}
    {read read' : List Token → Reading Sentence}
    (hread : ∀ part ∈ allOperands joint tokens, read part = read' part) :
    joined joint read tokens = joined joint read' tokens := by
  unfold allOperands at hread
  rw [List.forall_mem_cons] at hread
  rw [joined, joined, hread.1, mapM_congr_of_mem hread.2]

theorem strip_eq_pure {tokens inner : List Token} (hstrip : strip? tokens = some inner) :
    strip tokens = pure inner := by
  rw [strip, hstrip]

theorem strip_eq_fail {tokens : List Token} (hstrip : strip? tokens = none) :
    strip tokens = fail .tornGroup := by
  rw [strip, hstrip]

private theorem fail_bind {Value Result : Type} (fault : ReadError)
    (next : Value → Reading Result) : (fail fault : Reading Value) >>= next = fail fault :=
  bind_of_error rfl next

variable {text : List Char}

private theorem sentence_succ {tokens inner : List Token} (hstrip : strip? tokens = some inner)
    (budget : Nat) (context : List Token) :
    sentence text (budget + 1) tokens context =
      if joins .and inner then joined .and (fun part => disjunction text budget part inner) inner
      else disjunction text budget inner context := by
  rw [sentence, strip_eq_pure hstrip, pure_bind, joins, joined]
  rcases operands .and inner with ⟨first, _ | ⟨second, others⟩⟩ <;> rfl

private theorem disjunction_succ {tokens inner : List Token} (hstrip : strip? tokens = some inner)
    (budget : Nat) (context : List Token) :
    disjunction text (budget + 1) tokens context =
      if joins .or inner then joined .or (fun part => operand text budget part inner) inner
      else operand text budget inner context := by
  rw [disjunction, strip_eq_pure hstrip, pure_bind, joins, joined]
  rcases operands .or inner with ⟨first, _ | ⟨second, others⟩⟩ <;> rfl

private theorem operand_succ {tokens inner : List Token} (hstrip : strip? tokens = some inner)
    (budget : Nat) (context : List Token) :
    operand text (budget + 1) tokens context =
      if isCompound inner then sentence text budget inner tokens
      else Sentence.ofLiteral <$> literal text inner context := by
  rw [operand, strip_eq_pure hstrip, pure_bind, map_eq_pure_bind]

/-! ## The level -/

/-- Reads a range, looking for the given connective first. -/
def atLevel (text : List Char) (level : Connective) (tokens context : List Token) :
    Reading Sentence :=
  match level with
  | .and => sentence text (budget tokens) tokens context
  | .or => disjunction text (budget tokens + 2) tokens context

/-- What a range is read as once no pair encloses it. -/
private def bareAt (text : List Char) (level : Connective) (inner context : List Token) :
    Reading Sentence :=
  match jointAt level inner with
  | some joint => joined joint (fun part => atLevel text joint.other part inner) inner
  | none => Sentence.ofLiteral <$> literal text inner context

/-- The three functions agree with the reading at a level, given enough budget.  From one sentence
to the next three units are spent and a connective is passed; without a connective the range goes
through all three functions as it is. -/
private def Agrees (text : List Char) (tokens : List Token) : Prop :=
  ∀ (context : List Token) (available : Nat),
    (3 * max 1 (connectiveCount tokens) ≤ available →
      sentence text available tokens context = atLevel text .and tokens context) ∧
    (3 * connectiveCount tokens + 2 ≤ available →
      disjunction text available tokens context = atLevel text .or tokens context) ∧
    (3 * connectiveCount tokens + 1 ≤ available →
      operand text available tokens context = atLevel text .and tokens context)

section Step

variable {tokens inner : List Token} (hstrip : strip? tokens = some inner)
  (ih : ∀ part, connectiveCount part < connectiveCount tokens → Agrees text part)

include hstrip ih

private theorem sentence_eq_bareAt (context : List Token) {available : Nat}
    (havailable : 3 * max 1 (connectiveCount tokens) ≤ available) :
    sentence text available tokens context = bareAt text .and inner context := by
  have hcount := connectiveCount_of_strip? hstrip
  obtain ⟨available, rfl⟩ : ∃ rest, available = rest + 1 := ⟨available - 1, by omega⟩
  rw [sentence_succ hstrip, bareAt]
  cases hand : joins .and inner with
  | true =>
      rw [if_pos rfl, jointAt_of_joins hand]
      refine joined_congr fun part hpart => ?_
      have hless := connectiveCount_lt hand hpart
      exact (ih part (by omega) inner available).2.1 (by omega)
  | false =>
      -- the range goes on to the next function as it is, at the cost of one unit
      obtain ⟨available, rfl⟩ : ∃ rest, available = rest + 1 := ⟨available - 1, by omega⟩
      rw [if_neg Bool.false_ne_true, jointAt_of_not_joins hand,
        disjunction_succ (strip?_of_strip?_eq_some hstrip)]
      cases hor : joins .or inner with
      | true =>
          rw [if_pos rfl, Connective.other, hor, if_pos rfl]
          refine joined_congr fun part hpart => ?_
          have hless := connectiveCount_lt hor hpart
          exact (ih part (by omega) inner available).2.2 (by omega)
      | false =>
          obtain ⟨available, rfl⟩ : ∃ rest, available = rest + 1 := ⟨available - 1, by omega⟩
          rw [if_neg Bool.false_ne_true, Connective.other, hor, if_neg Bool.false_ne_true,
            operand_succ (strip?_of_strip?_eq_some hstrip), isCompound, hand, hor]
          rfl

private theorem operand_eq_bareAt (context : List Token) {available : Nat}
    (havailable : 3 * connectiveCount tokens + 1 ≤ available) :
    operand text available tokens context = bareAt text .and inner context := by
  have hcount := connectiveCount_of_strip? hstrip
  obtain ⟨available, rfl⟩ : ∃ rest, available = rest + 1 := ⟨available - 1, by omega⟩
  rw [operand_succ hstrip, isCompound_eq_isSome_jointAt .and]
  cases hjoint : jointAt .and inner with
  | some joint =>
      -- there is a connective, since the range has an operand with fewer
      have hless := connectiveCount_lt (joins_of_jointAt_eq_some hjoint) List.mem_cons_self
      have hbudget : 3 * max 1 (connectiveCount inner) ≤ available := by omega
      rw [Option.isSome_some, if_pos rfl,
        sentence_eq_bareAt (strip?_of_strip?_eq_some hstrip) (hcount ▸ ih) _ hbudget, bareAt,
        bareAt, hjoint]
  | none => rw [Option.isSome_none, if_neg Bool.false_ne_true, bareAt, hjoint]

private theorem disjunction_eq_bareAt (context : List Token) {available : Nat}
    (havailable : 3 * connectiveCount tokens + 2 ≤ available) :
    disjunction text available tokens context = bareAt text .or inner context := by
  have hcount := connectiveCount_of_strip? hstrip
  obtain ⟨available, rfl⟩ : ∃ rest, available = rest + 1 := ⟨available - 1, by omega⟩
  rw [disjunction_succ hstrip]
  cases hor : joins .or inner with
  | true =>
      rw [if_pos rfl, bareAt, jointAt_of_joins hor]
      refine joined_congr fun part hpart => ?_
      have hless := connectiveCount_lt hor hpart
      exact (ih part (by omega) inner available).2.2 (by omega)
  | false =>
      have hbudget : 3 * connectiveCount inner + 1 ≤ available := by omega
      -- without `v` both levels look for `^` alone
      have hlevels : jointAt .and inner = jointAt .or inner := by
        cases hand : joins .and inner <;> simp [jointAt, Connective.other, hand, hor]
      rw [if_neg Bool.false_ne_true,
        operand_eq_bareAt (strip?_of_strip?_eq_some hstrip) (hcount ▸ ih) _ hbudget, bareAt,
        bareAt, hlevels]

end Step

section Torn

variable {tokens : List Token} (htorn : strip? tokens = none)
include htorn

private theorem sentence_of_torn (context : List Token) {available : Nat}
    (havailable : 0 < available) : sentence text available tokens context = fail .tornGroup := by
  obtain ⟨available, rfl⟩ : ∃ rest, available = rest + 1 := ⟨available - 1, by omega⟩
  rw [sentence, strip_eq_fail htorn, fail_bind]

private theorem disjunction_of_torn (context : List Token) {available : Nat}
    (havailable : 0 < available) :
    disjunction text available tokens context = fail .tornGroup := by
  obtain ⟨available, rfl⟩ : ∃ rest, available = rest + 1 := ⟨available - 1, by omega⟩
  rw [disjunction, strip_eq_fail htorn, fail_bind]

private theorem operand_of_torn (context : List Token) {available : Nat}
    (havailable : 0 < available) : operand text available tokens context = fail .tornGroup := by
  obtain ⟨available, rfl⟩ : ∃ rest, available = rest + 1 := ⟨available - 1, by omega⟩
  rw [operand, strip_eq_fail htorn, fail_bind]

end Torn

/-- What a range is given suffices for each of the three functions. -/
private theorem budget_suffices (tokens : List Token) :
    3 * max 1 (connectiveCount tokens) ≤ budget tokens ∧
      3 * connectiveCount tokens + 2 ≤ budget tokens ∧
      3 * connectiveCount tokens + 1 ≤ budget tokens := by
  unfold budget
  omega

/-- By induction on the number of connectives: the operands of a group hold fewer. -/
private theorem agrees (text : List Char) (tokens : List Token) : Agrees text tokens := by
  induction hcount : connectiveCount tokens using Nat.strongRecOn generalizing tokens with
  | ind count ih =>
      have hsmaller : ∀ part, connectiveCount part < connectiveCount tokens → Agrees text part :=
        fun part hless => ih _ (hcount ▸ hless) part rfl
      intro context available
      obtain ⟨hsuffices, hsuffices', -⟩ := budget_suffices tokens
      cases hstrip : strip? tokens with
      | none =>
          refine ⟨fun havailable => ?_, fun havailable => ?_, fun havailable => ?_⟩
          · rw [atLevel, sentence_of_torn hstrip _ (by omega),
              sentence_of_torn hstrip _ (by omega)]
          · rw [atLevel, disjunction_of_torn hstrip _ (by omega),
              disjunction_of_torn hstrip _ (by omega)]
          · rw [atLevel, operand_of_torn hstrip _ (by omega), sentence_of_torn hstrip _ (by omega)]
      | some inner =>
          have hsentence := sentence_eq_bareAt hstrip hsmaller context hsuffices
          have hdisjunction := disjunction_eq_bareAt hstrip hsmaller context
            (Nat.le_trans hsuffices' (Nat.le_add_right _ 2))
          refine ⟨fun havailable => ?_, fun havailable => ?_, fun havailable => ?_⟩
          · rw [atLevel, hsentence, sentence_eq_bareAt hstrip hsmaller context havailable]
          · rw [atLevel, hdisjunction, disjunction_eq_bareAt hstrip hsmaller context havailable]
          · rw [atLevel, hsentence, operand_eq_bareAt hstrip hsmaller context havailable]

/-! ## The main statements -/

/-- More budget than a range is given changes nothing. -/
theorem sentence_eq_atLevel (text : List Char) (tokens context : List Token) {available : Nat}
    (havailable : budget tokens ≤ available) :
    sentence text available tokens context = atLevel text .and tokens context :=
  (agrees text tokens context available).1 (Nat.le_trans (budget_suffices tokens).1 havailable)

theorem disjunction_eq_atLevel (text : List Char) (tokens context : List Token) {available : Nat}
    (havailable : budget tokens ≤ available) :
    disjunction text available tokens context = atLevel text .or tokens context :=
  (agrees text tokens context available).2.1 (Nat.le_trans (budget_suffices tokens).2.1 havailable)

theorem operand_eq_atLevel (text : List Char) (tokens context : List Token) {available : Nat}
    (havailable : budget tokens ≤ available) :
    operand text available tokens context = atLevel text .and tokens context :=
  (agrees text tokens context available).2.2 (Nat.le_trans (budget_suffices tokens).2.2 havailable)

/-- A range that is not torn is read as the group that what is left of it is joined
to, its operands at the level of the other connective, or as a literal. -/
theorem atLevel_eq {tokens inner : List Token} (hstrip : strip? tokens = some inner)
    (text : List Char) (level : Connective) (context : List Token) :
    atLevel text level tokens context =
      match jointAt level inner with
      | some joint => joined joint (fun part => atLevel text joint.other part inner) inner
      | none => Sentence.ofLiteral <$> literal text inner context := by
  cases level with
  | and =>
      exact sentence_eq_bareAt hstrip (fun part _ => agrees text part) context
        (budget_suffices tokens).1
  | or =>
      exact disjunction_eq_bareAt hstrip (fun part _ => agrees text part) context
        (Nat.le_trans (budget_suffices tokens).2.1 (Nat.le_add_right _ 2))

theorem atLevel_of_torn {tokens : List Token} (htorn : strip? tokens = none) (text : List Char)
    (level : Connective) (context : List Token) :
    atLevel text level tokens context = fail .tornGroup := by
  cases level with
  | and => exact sentence_of_torn htorn context (Nat.mul_pos (by decide) (Nat.succ_pos _))
  | or => exact disjunction_of_torn htorn context (Nat.succ_pos _)

theorem atLevel_of_jointAt_eq_some {tokens inner : List Token} {level joint : Connective}
    (hstrip : strip? tokens = some inner) (hjoint : jointAt level inner = some joint)
    (text : List Char) (context : List Token) :
    atLevel text level tokens context =
      joined joint (fun part => atLevel text joint.other part inner) inner := by
  rw [atLevel_eq hstrip, hjoint]

theorem atLevel_of_jointAt_eq_none {tokens inner : List Token} {level : Connective}
    (hstrip : strip? tokens = some inner) (hjoint : jointAt level inner = none)
    (text : List Char) (context : List Token) :
    atLevel text level tokens context = Sentence.ofLiteral <$> literal text inner context := by
  rw [atLevel_eq hstrip, hjoint]

/-- A pair around a range changes nothing of what it is read as. -/
theorem atLevel_of_strip?_eq {tokens other : List Token} (hstrip : strip? tokens = strip? other)
    (text : List Char) (level : Connective) (context : List Token) :
    atLevel text level tokens context = atLevel text level other context := by
  cases hother : strip? other with
  | none =>
      rw [atLevel_of_torn (hstrip.trans hother), atLevel_of_torn hother]
  | some inner =>
      rw [atLevel_eq (hstrip.trans hother), atLevel_eq hother]

/-- Induction over ranges and levels: a property holds of a range if it holds of all
operands that are read on the way, each at its level. -/
theorem level_induction {motive : Connective → List Token → Prop}
    (step : ∀ level tokens,
      (∀ inner joint, strip? tokens = some inner → jointAt level inner = some joint →
        ∀ part ∈ allOperands joint inner, motive joint.other part) → motive level tokens)
    (level : Connective) (tokens : List Token) : motive level tokens := by
  induction hcount : connectiveCount tokens using Nat.strongRecOn
    generalizing level tokens with
  | ind count ih =>
      refine step level tokens fun inner joint hstrip hjoint part hpart => ?_
      have hless := connectiveCount_lt (joins_of_jointAt_eq_some hjoint) hpart
      have hinner := connectiveCount_of_strip? hstrip
      exact ih (connectiveCount part) (by omega) joint.other part rfl

/-! ## The whole text -/

theorem balanced_of_balanced {text : String} (hbalanced : Balanced (Token.scan text))
    (read : List Token → Reading Sentence) :
    Reading.balanced text read = read (Token.scan text) := by
  rw [Reading.balanced, imbalance_eq_none_iff.mpr hbalanced]

theorem balanced_of_not_balanced {text : String} (hbalanced : ¬ Balanced (Token.scan text))
    (read : List Token → Reading Sentence) :
    ∃ fault, Reading.balanced text read = fail (.unbalanced fault text) := by
  obtain ⟨fault, hfault⟩ := exists_imbalance_eq_some hbalanced
  exact ⟨fault, by rw [Reading.balanced, hfault]⟩

end Reading

theorem Sentence.read_eq (text : String) :
    Sentence.read text = Reading.balanced text fun tokens =>
      Reading.atLevel text.toList .and tokens tokens :=
  rfl

end Clausal
