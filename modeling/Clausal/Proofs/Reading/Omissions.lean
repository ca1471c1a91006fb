import Clausal.Proofs.Reading.Slices

/-!
# The place of a missing operand

Where an operand is missing there is nothing to quote of it.  What is quoted instead is the range
around it, or the negation that negates nothing, so that a reader sees where to look.

The direct reading always has such a range at hand: the whole text, or a group that the operand
is missing from.  The strict reading takes what is left of a conjunct, without its parentheses,
for the range around the disjuncts.  If nothing is left of it, then it is the conjunct that is
missing, and nothing is quoted at all, though there is a range around it.  This is the only way
in which a place is not named (`Mode.namesPlaces_iff`).
-/

namespace Clausal

namespace Reading

open Grouping Token

/-! ## What a place is -/

/-- The part begins with a symbol and ends with one. -/
def HasSymbolEnds (part : List Char) : Prop :=
  ∃ first last, part.head? = some first ∧ first.isWhitespace = false ∧
    part.getLast? = some last ∧ last.isWhitespace = false

/-- The range, or an operand of it, is nothing but parentheses, or the range negates nothing. -/
def LacksOperand (range : List Token) : Prop :=
  IsOperandIn [] range ∨
    ∃ negation rest, range = negation :: rest ∧ negation.kind = .not ∧ strip? rest = some []

/-- A part of the text with symbols at its ends is quoted, which lacks an operand. -/
def NamesPlace (text quoted : String) : Prop :=
  HasSymbolEnds quoted.toList ∧ ∃ range, range <:+: scan text ∧
    Covers text.toList range quoted.toList ∧ LacksOperand range

/-- Whenever the text is refused for a missing operand, a place is named. -/
def Mode.NamesPlaces (mode : Mode) (text : String) : Prop :=
  ∀ fault, (mode.read text).result = .error fault → fault.kind = .missingVariable →
    ∃ quoted, fault.fragment? = some quoted ∧ NamesPlace text quoted

/-! ## Naming a range -/

theorem Covers.hasSymbolEnds {text part : List Char} {range : List Token}
    (hcovers : Covers text range part) : HasSymbolEnds part := by
  obtain ⟨before, after, first, last, -, hhead, hfirst, hend, hlast, hscan⟩ := hcovers
  rw [← hscan, List.head?_map, Option.map_eq_some_iff] at hhead
  rw [← hscan, List.getLast?_map, Option.map_eq_some_iff] at hend
  obtain ⟨head, hhead, rfl⟩ := hhead
  obtain ⟨ending, hend, rfl⟩ := hend
  -- no character of the part is before the first of its tokens, and none after the last
  obtain ⟨rest, htokens⟩ := List.head?_eq_some_iff.mp hhead
  rw [← List.nil_append (head :: rest)] at htokens
  obtain ⟨front, back, hpart, hposition, hwhite, -⟩ :=
    exists_of_scanFrom_eq_append_cons htokens
  obtain ⟨init, htokens'⟩ := List.getLast?_eq_some_iff.mp hend
  obtain ⟨front', back', hpart', hposition', hwhite', -⟩ :=
    exists_of_scanFrom_eq_append_cons htokens'
  have hlength := congrArg List.length hpart'
  rw [List.length_append, List.length_cons] at hlength
  simp only [shift] at hfirst hlast
  have hfront : front = [] := List.length_eq_zero_iff.mp (by omega)
  have hback : back' = [] := List.length_eq_zero_iff.mp (by omega)
  refine ⟨head.symbol, ending.symbol, ?_, hwhite, ?_, hwhite'⟩
  · rw [hpart, hfront]
    rfl
  · rw [hpart', hback, List.getLast?_concat]

theorem namesPlace_fragment {text : String} {range : List Token} (hwithin : range <:+: scan text)
    (hnonempty : range ≠ []) (hlacks : LacksOperand range) :
    NamesPlace text (fragment text.toList range) := by
  have hcovers := covers_slice hwithin hnonempty
  rw [NamesPlace, fragment, String.toList_ofList]
  exact ⟨hcovers.hasSymbolEnds, range, hwithin, hcovers, hlacks⟩

/-- A place is named if there is anything around the operand. -/
theorem exists_namesPlace_of_refusedAt {text : String} {enclosing range : List Token}
    {fault : ReadError}
    (hrefused : RefusedAt (fun tokens => Balanced tokens ∧ tokens <:+: scan text) text.toList
      enclosing range fault)
    (hkind : fault.kind = .missingVariable) (hnonempty : enclosing ≠ []) :
    ∃ quoted, fault.fragment? = some quoted ∧ NamesPlace text quoted := by
  have hoperand := hrefused.isOperandIn
  have hrange := hrefused.holds_range
  cases hrefused.literalFault with
  | empty =>
      have henclosing := hrefused.holds_enclosing
      exact ⟨_, rfl, namesPlace_fragment henclosing.2 hnonempty (.inl hoperand)⟩
  | @negatesNothing negation rest hnot hstrip =>
      exact ⟨_, rfl, namesPlace_fragment hrange.2 (List.cons_ne_nil negation rest)
        (.inr ⟨negation, rest, rfl, hnot, hstrip⟩)⟩
  | negatesOther | other => simp [ReadError.kind] at hkind

/-! ## Conjuncts of nothing -/

/-- The strict reading of the text comes to a conjunct of nothing but parentheses. -/
def StopsAtNothing (text : String) : Prop :=
  Balanced (scan text) ∧ ∃ conjunct, ReachesConjunct text.toList (scan text) conjunct ∧
    strip? conjunct = some []

/-- A conjunct of nothing but parentheses is refused, and nothing is quoted. -/
theorem clause_eq_error_of_strip?_eq_nil {conjunct : List Token}
    (hstrip : strip? conjunct = some []) (text : List Char) :
    (clause text conjunct).result = .error (.missingOperand "") := by
  have hnothing : (clause.disjunct text [] []).result = .error (.missingOperand "") := by
    rw [disjunct_eq, strip_eq_pure (strip?_of_bare rfl), pure_bind, map_eq_error_iff]
    rfl
  rw [clause_eq, strip_eq_pure hstrip, pure_bind, joined_eq_error_iff]
  exact ⟨[], [], [], rfl, by simp, hnothing⟩

theorem StopsAtNothing.readClauses_eq_error {text : String} (hstops : StopsAtNothing text) :
    (Sentence.readClauses text).result = .error (.missingOperand "") := by
  obtain ⟨hbalanced, conjunct, hreaches, hstrip⟩ := hstops
  rw [Sentence.readClauses, balanced_of_balanced hbalanced, clauses_eq_error_iff hbalanced]
  exact ⟨conjunct, hreaches, clause_eq_error_of_strip?_eq_nil hstrip text.toList⟩

theorem not_namesPlace_empty (text : String) : ¬ NamesPlace text "" := by
  rintro ⟨⟨first, last, hhead, -⟩, -⟩
  simp at hhead

/-! ## The main statement -/

theorem scan_ne_nil {text : String} (hsymbol : ∃ c ∈ text.toList, c.isWhitespace = false) :
    scan text ≠ [] := by
  intro hscan
  obtain ⟨c, hmem, hwhite⟩ := hsymbol
  have hsymbols := map_symbol_scan text
  rw [hscan, List.map_nil] at hsymbols
  have hfound : c ∈ symbols text.toList := List.mem_filter.mpr ⟨hmem, by simp [hwhite]⟩
  rw [← hsymbols] at hfound
  exact List.not_mem_nil hfound

/-- **The place of a missing operand.**  Of a text that is not blank, the direct reading always
names the place of a missing operand: it quotes a part of the text that begins and ends with a
symbol and lacks the operand.  So does the strict reading, unless the first conjunct that it
refuses is nothing but parentheses. -/
theorem Mode.namesPlaces_iff (mode : Mode) {text : String}
    (hsymbol : ∃ c ∈ text.toList, c.isWhitespace = false) :
    mode.NamesPlaces text ↔ ¬ (mode = .clausal ∧ StopsAtNothing text) := by
  constructor
  · rintro hnames ⟨rfl, hstops⟩
    obtain ⟨quoted, hquoted, hplace⟩ := hnames _ hstops.readClauses_eq_error rfl
    obtain rfl := Option.some.inj hquoted
    exact not_namesPlace_empty text hplace
  · intro hnothing fault hread hkind
    have hbalanced := Mode.balanced_of_kind_ne hread (by simp [hkind])
    have htext : Balanced (scan text) ∧ scan text <:+: scan text := ⟨hbalanced, List.infix_rfl⟩
    cases mode with
    | direct =>
        obtain ⟨enclosing, range, hrefused, henclosing⟩ :=
          (hereditary_isInfix text.toList).exists_refusedAt_of_read htext hread
        refine exists_namesPlace_of_refusedAt hrefused hkind ?_
        rcases henclosing with rfl | ⟨joint, hjoins⟩
        · exact scan_ne_nil hsymbol
        · exact ne_nil_of_joins hjoins
    | clausal =>
        obtain ⟨enclosing, range, hrefused, conjunct, hreaches, hstrip⟩ :=
          (hereditary_isInfix text.toList).exists_refusedAt_of_readClauses htext hread
        refine exists_namesPlace_of_refusedAt hrefused hkind ?_
        rintro rfl
        exact hnothing ⟨rfl, hbalanced, conjunct, hreaches, hstrip⟩

/-- A conjunct of two pairs of parentheses: only the direct reading has something to quote. -/
theorem Mode.namesPlaces_iff_of_empty_conjunct :
    (Mode.direct.read "A ^ (( ))").result = .error (.missingOperand "A ^ (( ))") ∧
      (Mode.clausal.read "A ^ (( ))").result = .error (.missingOperand "") ∧
      Mode.direct.NamesPlaces "A ^ (( ))" ∧ ¬ Mode.clausal.NamesPlaces "A ^ (( ))" := by
  have hsymbol : ∃ c ∈ "A ^ (( ))".toList, c.isWhitespace = false := ⟨'A', by decide, by decide⟩
  have hreaches : ReachesConjunct "A ^ (( ))".toList (scan "A ^ (( ))")
      [⟨'(', 4⟩, ⟨'(', 5⟩, ⟨')', 7⟩, ⟨')', 8⟩] := by
    refine ⟨scan "A ^ (( ))", [[⟨'A', 0⟩]], [], by decide +kernel, by decide +kernel, ?_⟩
    rw [List.forall_mem_singleton]
    exact ⟨.disjunction (.variable ⟨'A', by decide, by decide⟩) [], by decide +kernel⟩
  have hstops : StopsAtNothing "A ^ (( ))" :=
    ⟨imbalance_eq_none_iff.mp (by decide +kernel), _, hreaches, by decide +kernel⟩
  exact ⟨by decide +kernel, by decide +kernel, (Mode.direct.namesPlaces_iff hsymbol).mpr (by simp),
    mt (Mode.clausal.namesPlaces_iff hsymbol).mp (not_not_intro ⟨rfl, hstops⟩)⟩

/-- Behind the last `^` of this text there is nothing. -/
theorem Mode.not_namesPlaces_of_trailing_and :
    (∃ c ∈ "A ^".toList, c.isWhitespace = false) ∧
      (Mode.clausal.read "A ^").result = .error (.missingOperand "") ∧
      ¬ Mode.clausal.NamesPlaces "A ^" := by
  have hread : (Mode.clausal.read "A ^").result = .error (.missingOperand "") := by decide +kernel
  refine ⟨⟨'A', by decide, by decide⟩, hread, fun hnames => ?_⟩
  obtain ⟨quoted, hquoted, hplace⟩ := hnames _ hread rfl
  obtain rfl : "" = quoted := Option.some.inj hquoted
  exact not_namesPlace_empty "A ^" hplace

end Reading

end Clausal
