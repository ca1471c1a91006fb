import Clausal.Proofs.Reading.ClausalRoundTrip
import Clausal.Proofs.Reading.Grammar
import Clausal.Proofs.Sentence.Draft
import Clausal.Reading.Report

/-!
# The faults of a text

Every fault of a balanced text is the fault of one literal: the readings cut the text
into ranges, and only a range at a literal's place can be refused.  `LiteralFault` lists
the ways in which a balanced range is refused there.

Which ranges come to a literal's place is left open.  What is known of them is what the
whole text has and every step of a reading keeps, that is, a `Hereditary` property; both
readings are followed once, for any such property, to the range that is refused and the
range around it (`Hereditary.exists_refusedAt`).  Balance is the first one of use: a
balanced range is never torn, so the main statement is that a text is refused in one of
three ways, and for its parentheses only if they do not match.
-/

namespace Clausal

namespace Reading

open Grouping Token

variable {Value Result Item : Type} {text : List Char}

/-! ## Faults of composed readings -/

theorem bind_eq_error_iff {reading : Reading Value} {next : Value → Reading Result}
    {fault : ReadError} :
    (reading >>= next).result = .error fault ↔ reading.result = .error fault ∨
      ∃ value, reading.result = .ok value ∧ (next value).result = .error fault := by
  cases hresult : reading.result with
  | ok value => simp [bind_of_ok hresult]
  | error fault => simp [bind_of_error hresult]

theorem map_eq_error_iff {change : Value → Result} {reading : Reading Value} {fault : ReadError} :
    (change <$> reading).result = .error fault ↔ reading.result = .error fault := by
  rw [map_eq_pure_bind, bind_eq_error_iff]
  simp

/-- A list of readings ends with the first fault of one of them. -/
theorem mapM_eq_error_iff {read : Item → Reading Value} {items : List Item} {fault : ReadError} :
    (items.mapM read).result = .error fault ↔ ∃ front item back, items = front ++ item :: back ∧
      (∀ earlier ∈ front, (read earlier).Succeeds) ∧ (read item).result = .error fault := by
  induction items with
  | nil => simp
  | cons item rest ih =>
      simp only [List.mapM_cons, bind_eq_error_iff, result_pure, reduceCtorEq, and_false,
        exists_false, or_false, ih]
      constructor
      · rintro (hitem | ⟨value, hvalue, front, found, back, rfl, hfront, hfound⟩)
        · exact ⟨[], item, rest, rfl, by simp, hitem⟩
        · exact ⟨item :: front, found, back, rfl,
            List.forall_mem_cons.mpr ⟨⟨value, hvalue⟩, hfront⟩, hfound⟩
      · rintro ⟨front, found, back, hitems, hfront, hfound⟩
        cases front with
        | nil =>
            obtain ⟨rfl, rfl⟩ := List.cons.inj hitems
            exact Or.inl hfound
        | cons first front =>
            obtain ⟨rfl, rfl⟩ := List.cons.inj hitems
            obtain ⟨⟨value, hvalue⟩, hfront⟩ := List.forall_mem_cons.mp hfront
            exact Or.inr ⟨value, hvalue, front, found, back, rfl, hfront, hfound⟩

/-- A group ends with the first fault of one of its operands. -/
theorem joined_eq_error_iff {joint : Connective} {read : List Token → Reading Sentence}
    {tokens : List Token} {fault : ReadError} :
    (joined joint read tokens).result = .error fault ↔ ∃ front part back,
      allOperands joint tokens = front ++ part :: back ∧
      (∀ earlier ∈ front, (read earlier).Succeeds) ∧ (read part).result = .error fault := by
  rw [← mapM_eq_error_iff, allOperands, List.mapM_cons, joined]
  simp only [bind_eq_error_iff, result_pure, reduceCtorEq, and_false, exists_false, or_false]

/-! ## Faults of literals -/

/-- The range is one variable. -/
def IsAtom (tokens : List Token) : Prop := ∃ token, tokens = [token] ∧ token.kind = .variable

/-- How a balanced range is refused as a literal in a context. -/
inductive LiteralFault (text : List Char) (context : List Token) : List Token → ReadError → Prop
  /-- There is no operand. -/
  | empty : LiteralFault text context [] (.missingOperand (fragment text context))
  /-- Nothing but parentheses is negated. -/
  | negatesNothing {negation : Token} {rest : List Token} (hnot : negation.kind = .not)
      (hstrip : strip? rest = some []) :
      LiteralFault text context (negation :: rest)
        (.missingNegated (fragment text (negation :: rest)))
  /-- Something else than a variable is negated. -/
  | negatesOther {negation : Token} {rest inner : List Token} (hnot : negation.kind = .not)
      (hstrip : strip? rest = some inner) (hnonempty : inner ≠ []) (hatom : ¬ IsAtom inner) :
      LiteralFault text context (negation :: rest) (.unexpectedLiteral (fragment text inner))
  /-- The operand is neither a negation nor a variable. -/
  | other {first : Token} {rest : List Token} (hnot : first.kind ≠ .not)
      (hatom : ¬ IsAtom (first :: rest)) :
      LiteralFault text context (first :: rest) (.unexpectedLiteral (fragment text (first :: rest)))

theorem isAtom_singleton_iff {token : Token} : IsAtom [token] ↔ token.kind = .variable := by
  simp [IsAtom]

private theorem atom_eq_error {negated : Bool} {tokens : List Token} {fault : ReadError}
    (hatom : (atom text negated tokens).result = .error fault) :
    ¬ IsAtom tokens ∧ fault = .unexpectedLiteral (fragment text tokens) := by
  rcases tokens with _ | ⟨token, _ | ⟨second, rest⟩⟩
  · exact ⟨by simp [IsAtom], (Except.error.inj hatom).symm⟩
  · have hletter := token.isSome_letter?_iff
    rw [atom] at hatom
    cases hcase : token.letter? with
    | some letter => simp [hcase, settle] at hatom
    | none =>
        rw [hcase] at hatom hletter
        refine ⟨fun hvariable => ?_, (Except.error.inj hatom).symm⟩
        simpa using hletter.mpr (isAtom_singleton_iff.mp hvariable)
  · exact ⟨by simp [IsAtom], (Except.error.inj hatom).symm⟩

theorem literalFault_of_literal_eq_error {tokens context : List Token} {fault : ReadError}
    (hbalanced : Balanced tokens) (hread : (literal text tokens context).result = .error fault) :
    LiteralFault text context tokens fault := by
  cases tokens with
  | nil =>
      obtain rfl := Except.error.inj hread
      exact .empty
  | cons first rest =>
      rw [literal] at hread
      by_cases hnot : first.kind = .not
      · have hrest := hbalanced.of_cons (by simp [weight, hnot])
        obtain ⟨inner, hstrip, -⟩ := hrest.exists_strip?_eq_some
        rw [if_pos hnot, strip_eq_pure hstrip, pure_bind] at hread
        cases inner with
        | nil =>
            obtain rfl := Except.error.inj hread
            exact .negatesNothing hnot hstrip
        | cons head tail =>
            obtain ⟨hatom, rfl⟩ := atom_eq_error hread
            exact .negatesOther hnot hstrip (List.cons_ne_nil head tail) hatom
      · rw [if_neg hnot] at hread
        obtain ⟨hatom, rfl⟩ := atom_eq_error hread
        exact .other hnot hatom

/-- A literal is missing or no literal; its parentheses are never at fault. -/
theorem LiteralFault.kind_eq {context tokens : List Token} {fault : ReadError}
    (hfault : LiteralFault text context tokens fault) :
    fault.kind = .missingVariable ∨ fault.kind = .unexpectedLiteral := by
  cases hfault with
  | empty | negatesNothing => exact Or.inl rfl
  | negatesOther | other => exact Or.inr rfl

/-! ## Properties that every step of a reading keeps -/

/-- A property of balanced ranges that is kept when enclosing pairs are taken away and
when a range is cut into operands. -/
structure Hereditary (holds : List Token → Prop) : Prop where
  balanced {tokens : List Token} (htokens : holds tokens) : Balanced tokens
  strip {tokens inner : List Token} (htokens : holds tokens) (hstrip : strip? tokens = some inner) :
    holds inner
  operand {joint : Connective} {tokens part : List Token} (htokens : holds tokens)
    (hpart : part ∈ allOperands joint tokens) : holds part

theorem hereditary_balanced : Hereditary Balanced where
  balanced htokens := htokens
  strip htokens hstrip := htokens.of_strip?_eq_some hstrip
  operand htokens hpart := htokens.of_mem_allOperands hpart

/-! ## Where the fault is -/

/-- The range is what is left of another one, or of one of its operands. -/
def IsOperandIn (range enclosing : List Token) : Prop :=
  ∃ part, (part = enclosing ∨ ∃ joint, part ∈ allOperands joint enclosing) ∧
    strip? part = some range

/-- A range is refused as a literal, in the range around it, and both have a property. -/
structure RefusedAt (holds : List Token → Prop) (text : List Char) (enclosing range : List Token)
    (fault : ReadError) : Prop where
  holds_enclosing : holds enclosing
  holds_range : holds range
  isOperandIn : IsOperandIn range enclosing
  literalFault : LiteralFault text enclosing range fault

/-- The strict reading of a range comes to a conjunct: all before it are clauses. -/
def ReachesConjunct (text : List Char) (tokens conjunct : List Token) : Prop :=
  ∃ inner front back, strip? tokens = some inner ∧
    allOperands .and inner = front ++ conjunct :: back ∧
      ∀ earlier ∈ front, (clause text earlier).Succeeds

/-- The strict reading ends with the fault of the first conjunct that is no clause. -/
theorem clauses_eq_error_iff {tokens : List Token} (hbalanced : Balanced tokens)
    {fault : ReadError} :
    (clauses text tokens).result = .error fault ↔ ∃ conjunct,
      ReachesConjunct text tokens conjunct ∧ (clause text conjunct).result = .error fault := by
  obtain ⟨inner, hstrip, -⟩ := hbalanced.exists_strip?_eq_some
  rw [clauses_eq, strip_eq_pure hstrip, pure_bind, joined_eq_error_iff]
  constructor
  · rintro ⟨front, conjunct, back, hconjuncts, hfront, hfault⟩
    exact ⟨conjunct, ⟨inner, front, back, hstrip, hconjuncts, hfront⟩, hfault⟩
  · rintro ⟨conjunct, ⟨inner', front, back, hstrip', hconjuncts, hfront⟩, hfault⟩
    obtain rfl := Option.some.inj (hstrip.symm.trans hstrip')
    exact ⟨front, conjunct, back, hconjuncts, hfront, hfault⟩

namespace Hereditary

variable {holds : List Token → Prop} (hholds : Hereditary holds)
include hholds

private theorem exists_refusedAt_of_atLevel {level : Connective} {tokens context : List Token}
    {fault : ReadError} (htokens : holds tokens) (hcontext : holds context)
    (hwithin : tokens = context ∨ ∃ joint, tokens ∈ allOperands joint context)
    (hread : (atLevel text level tokens context).result = .error fault) :
    ∃ enclosing range, RefusedAt holds text enclosing range fault ∧
      (enclosing = context ∨ ∃ joint, joins joint enclosing = true) := by
  induction level, tokens using level_induction generalizing context with
  | step level tokens ih =>
      obtain ⟨inner, hstrip, -⟩ := (hholds.balanced htokens).exists_strip?_eq_some
      have hinner := hholds.strip htokens hstrip
      cases hjoint : jointAt level inner with
      | none =>
          rw [atLevel_of_jointAt_eq_none hstrip hjoint, map_eq_error_iff] at hread
          exact ⟨context, inner, ⟨hcontext, hinner, ⟨tokens, hwithin, hstrip⟩,
            literalFault_of_literal_eq_error (hholds.balanced hinner) hread⟩, Or.inl rfl⟩
      | some joint =>
          rw [atLevel_of_jointAt_eq_some hstrip hjoint, joined_eq_error_iff] at hread
          obtain ⟨front, part, back, hparts, -, hfault⟩ := hread
          have hpart : part ∈ allOperands joint inner := by simp [hparts]
          obtain ⟨enclosing, range, hrefused, henclosing⟩ := ih inner joint hstrip hjoint part hpart
            (hholds.operand hinner hpart) hinner (Or.inr ⟨joint, hpart⟩) hfault
          refine ⟨enclosing, range, hrefused, Or.inr ?_⟩
          rcases henclosing with rfl | hjoins
          · exact ⟨joint, joins_of_jointAt_eq_some hjoint⟩
          · exact hjoins

/-- A fault of a clause is in what is left of it. -/
private theorem exists_refusedAt_of_clause {conjunct : List Token} {fault : ReadError}
    (hconjunct : holds conjunct) (hread : (clause text conjunct).result = .error fault) :
    ∃ enclosing range, RefusedAt holds text enclosing range fault ∧
      strip? conjunct = some enclosing := by
  obtain ⟨inner, hstrip, -⟩ := (hholds.balanced hconjunct).exists_strip?_eq_some
  have hinner := hholds.strip hconjunct hstrip
  rw [clause_eq, strip_eq_pure hstrip, pure_bind, joined_eq_error_iff] at hread
  obtain ⟨front, part, back, hparts, -, hfault⟩ := hread
  have hpart : part ∈ allOperands .or inner := by simp [hparts]
  have hholdsPart := hholds.operand hinner hpart
  obtain ⟨stripped, hstripPart, -⟩ := (hholds.balanced hholdsPart).exists_strip?_eq_some
  have hstripped := hholds.strip hholdsPart hstripPart
  rw [disjunct_eq, strip_eq_pure hstripPart, pure_bind, map_eq_error_iff] at hfault
  exact ⟨inner, stripped, ⟨hinner, hstripped, ⟨part, Or.inr ⟨.or, hpart⟩, hstripPart⟩,
    literalFault_of_literal_eq_error (hholds.balanced hstripped) hfault⟩, hstrip⟩

/-- A fault of the direct reading is in the whole text or in a group of it. -/
theorem exists_refusedAt_of_read {text : String} (htext : holds (scan text)) {fault : ReadError}
    (hread : (Sentence.read text).result = .error fault) :
    ∃ enclosing range, RefusedAt holds text.toList enclosing range fault ∧
      (enclosing = scan text ∨ ∃ joint, joins joint enclosing = true) := by
  rw [Sentence.read_eq, balanced_of_balanced (hholds.balanced htext)] at hread
  exact hholds.exists_refusedAt_of_atLevel htext htext (Or.inl rfl) hread

/-- A fault of the strict reading is in what is left of the conjunct that it comes to. -/
theorem exists_refusedAt_of_readClauses {text : String} (htext : holds (scan text))
    {fault : ReadError} (hread : (Sentence.readClauses text).result = .error fault) :
    ∃ enclosing range, RefusedAt holds text.toList enclosing range fault ∧
      ∃ conjunct, ReachesConjunct text.toList (scan text) conjunct ∧
        strip? conjunct = some enclosing := by
  have hbalanced := hholds.balanced htext
  rw [Sentence.readClauses, balanced_of_balanced hbalanced, clauses_eq_error_iff hbalanced] at hread
  obtain ⟨conjunct, hreaches, hfault⟩ := hread
  have hconjunct : holds conjunct := by
    obtain ⟨inner, front, back, hstrip, hconjuncts, -⟩ := hreaches
    have hmem : conjunct ∈ allOperands .and inner := by simp [hconjuncts]
    exact hholds.operand (hholds.strip htext hstrip) hmem
  obtain ⟨enclosing, range, hrefused, hstrip⟩ :=
    hholds.exists_refusedAt_of_clause hconjunct hfault
  exact ⟨enclosing, range, hrefused, conjunct, hreaches, hstrip⟩

/-- A fault of a text that has a hereditary property is the fault of a literal at a range
that has it, too. -/
theorem exists_refusedAt (mode : Mode) {text : String} (htext : holds (scan text))
    {fault : ReadError} (hread : (mode.read text).result = .error fault) :
    ∃ enclosing range, RefusedAt holds text.toList enclosing range fault := by
  cases mode with
  | direct =>
      obtain ⟨enclosing, range, hrefused, -⟩ := hholds.exists_refusedAt_of_read htext hread
      exact ⟨enclosing, range, hrefused⟩
  | clausal =>
      obtain ⟨enclosing, range, hrefused, -⟩ := hholds.exists_refusedAt_of_readClauses htext hread
      exact ⟨enclosing, range, hrefused⟩

end Hereditary

/-! ## The main statement -/

/-- What a text with an imbalance is refused with, in either mode. -/
theorem Mode.read_of_imbalance {text : String} {imbalance : Imbalance}
    (himbalance : Grouping.imbalance (scan text) = some imbalance) (mode : Mode) :
    mode.read text = fail (.unbalanced imbalance text) := by
  cases mode <;> simp [Mode.read, Sentence.read, Sentence.readClauses, Reading.balanced, himbalance]

/-- What is refused for another reason is balanced. -/
theorem Mode.balanced_of_kind_ne {mode : Mode} {text : String} {fault : ReadError}
    (hread : (mode.read text).result = .error fault) (hkind : fault.kind ≠ .parenthesisMismatch) :
    Balanced (scan text) := by
  by_contra hunbalanced
  obtain ⟨imbalance, himbalance⟩ := exists_imbalance_eq_some hunbalanced
  rw [mode.read_of_imbalance himbalance, result_fail, Except.error.injEq] at hread
  exact hkind (hread ▸ rfl)

/-- A text is refused for its parentheses if and only if they have an imbalance, and that
is what it is refused with. -/
theorem Mode.read_eq_error_mismatch_iff (mode : Mode) {text : String} {fault : ReadError} :
    (mode.read text).result = .error fault ∧ fault.kind = .parenthesisMismatch ↔
      ∃ imbalance, Grouping.imbalance (scan text) = some imbalance ∧
        fault = .unbalanced imbalance text := by
  constructor
  · rintro ⟨hread, hkind⟩
    cases himbalance : Grouping.imbalance (scan text) with
    | some imbalance =>
        rw [mode.read_of_imbalance himbalance, result_fail, Except.error.injEq] at hread
        exact ⟨imbalance, rfl, hread.symm⟩
    | none =>
        obtain ⟨enclosing, range, hrefused⟩ := hereditary_balanced.exists_refusedAt mode
          (imbalance_eq_none_iff.mp himbalance) hread
        rcases hrefused.literalFault.kind_eq with hmissing | hunexpected
        · simp [hmissing] at hkind
        · simp [hunexpected] at hkind
  · rintro ⟨imbalance, himbalance, rfl⟩
    exact ⟨by rw [mode.read_of_imbalance himbalance, result_fail], rfl⟩

/-- Every fault of a text is of one of three families. -/
theorem Mode.kind_of_read_eq_error {mode : Mode} {text : String} {fault : ReadError}
    (hread : (mode.read text).result = .error fault) :
    fault.kind = .missingVariable ∨ fault.kind = .unexpectedLiteral ∨
      fault.kind = .parenthesisMismatch := by
  by_cases hbalanced : Balanced (scan text)
  · obtain ⟨enclosing, range, hrefused⟩ :=
      hereditary_balanced.exists_refusedAt mode hbalanced hread
    exact hrefused.literalFault.kind_eq.imp_right Or.inl
  · obtain ⟨imbalance, himbalance⟩ := exists_imbalance_eq_some hbalanced
    rw [mode.read_of_imbalance himbalance, result_fail, Except.error.injEq] at hread
    exact Or.inr (Or.inr (hread ▸ rfl))

/-- **The faults of a text.**  In either mode a text is read or refused as unreadable, as a
missing variable, an unexpected literal or a mismatch of parentheses.  It is the last if and
only if its parentheses are not balanced, and then the fault is the imbalance found in the
whole text.  No node that a reading builds is refused by the checks of a draft: neither the
letter of a token for a variable, nor any sentence. -/
theorem reported_text (mode : Mode) (text : String) :
    ((∃ sentence, (reported mode (.text text)).1 = .ok sentence) ∨
      ∃ fault, (reported mode (.text text)).1 = .error (.unreadable fault) ∧
        (fault.kind = .missingVariable ∨ fault.kind = .unexpectedLiteral ∨
          fault.kind = .parenthesisMismatch)) ∧
    ((∃ fault, (reported mode (.text text)).1 = .error (.unreadable fault) ∧
        fault.kind = .parenthesisMismatch) ↔ ¬ Balanced (scan text)) ∧
    (∀ fault, (reported mode (.text text)).1 = .error (.unreadable fault) →
      fault.kind = .parenthesisMismatch →
        ∃ imbalance, Grouping.imbalance (scan text) = some imbalance ∧
          fault = .unbalanced imbalance text ∧ fault.message = imbalance.message ∧
            fault.fragment? = some text) ∧
    (∀ token ∈ scan text, token.kind = .variable → ∃ letter, token.letter? = some letter ∧
      Draft.letter (String.singleton token.symbol) = .ok letter) ∧
    ∀ sentence : Sentence, sentence.draft.check = .ok sentence := by
  have hreported : ∀ fault, (reported mode (.text text)).1 = .error (.unreadable fault) ↔
      (mode.read text).result = .error fault := fun fault => by
    cases hresult : (mode.read text).result <;> simp [reported, hresult, Except.mapError]
  simp only [hreported, Mode.read_eq_error_mismatch_iff]
  refine ⟨?_, ?_, ?_, ?_, Sentence.check_draft⟩
  · cases hresult : (mode.read text).result with
    | ok sentence => exact Or.inl ⟨sentence, by simp [reported, hresult, Except.mapError]⟩
    | error fault => exact Or.inr ⟨fault, rfl, mode.kind_of_read_eq_error hresult⟩
  · constructor
    · rintro ⟨fault, imbalance, himbalance, -⟩
      rw [← imbalance_eq_none_iff]
      simp [himbalance]
    · intro hunbalanced
      obtain ⟨imbalance, himbalance⟩ := exists_imbalance_eq_some hunbalanced
      exact ⟨_, imbalance, himbalance, rfl⟩
  · intro fault hread hkind
    obtain ⟨imbalance, himbalance, rfl⟩ := mode.read_eq_error_mismatch_iff.mp ⟨hread, hkind⟩
    exact ⟨imbalance, himbalance, rfl, rfl, rfl⟩
  · intro token _ hkind
    obtain ⟨letter, hletter⟩ := Option.isSome_iff_exists.mp (token.isSome_letter?_iff.mpr hkind)
    refine ⟨letter, hletter, ?_⟩
    rw [← Token.char_of_letter?_eq_some hletter, Draft.letter_singleton]

end Reading

end Clausal
