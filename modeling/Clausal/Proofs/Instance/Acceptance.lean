import Clausal.Proofs.Instance.ReadBack
import Clausal.Proofs.Reading.Conservation

/-!
# Which instances are read

The numbers that an instance is drawn with are checked, and that there is a name to draw, but
not the names.  So the text of an instance may be no sentence: for names of one character it
is one if and only if every name that was drawn is that of a variable.

That such names suffice is `exists_sentence`.  That they are necessary is by counting.  A text
that is read has one variable more than it has connectives, whatever its sentence is
(`Spells.surplus_eq_one`).  The text of an instance has connectives for as many variables as
it has literals, so a name that is none leaves it short of one, and a name that is a
connective even of two.
-/

namespace Clausal

namespace Token

/-! ## Variables less connectives -/

/-- What a token counts towards the variables that no connective has used up. -/
def Kind.surplus : Kind → Int
  | .variable => 1
  | .connective _ => -1
  | _ => 0

/-- The number of variables of a text less that of its connectives. -/
def surplus : List Char → Int
  | [] => 0
  | c :: rest => (Kind.ofSymbol c).surplus + surplus rest

@[simp] theorem surplus_nil : surplus [] = 0 := rfl

theorem surplus_cons (c : Char) (rest : List Char) :
    surplus (c :: rest) = (Kind.ofSymbol c).surplus + surplus rest :=
  rfl

theorem surplus_append (first second : List Char) :
    surplus (first ++ second) = surplus first + surplus second := by
  induction first with
  | nil => simp
  | cons c rest ih => rw [List.cons_append, surplus_cons, ih, surplus_cons, Int.add_assoc]

theorem surplus_of_isWhitespace {c : Char} (hwhite : c.isWhitespace = true) :
    (Kind.ofSymbol c).surplus = 0 := by
  simp only [Char.isWhitespace, Bool.or_eq_true, decide_eq_true_eq] at hwhite
  rcases hwhite with ((rfl | rfl) | rfl) | rfl <;> rfl

theorem surplus_symbols (text : List Char) : surplus (symbols text) = surplus text := by
  induction text with
  | nil => rfl
  | cons c rest ih =>
      cases hwhite : c.isWhitespace with
      | true =>
          rw [symbols_cons_of_white hwhite, surplus_cons, surplus_of_isWhitespace hwhite, ih,
            Int.zero_add]
      | false => rw [symbols_cons_of_not_white hwhite, surplus_cons, surplus_cons, ih]

/-- Parentheses do not count. -/
theorem surplus_of_wraps {tokens inner : List Token} (hwraps : Grouping.Wraps tokens inner) :
    surplus (tokens.map symbol) = surplus (inner.map symbol) := by
  induction hwraps with
  | bare => rfl
  | @pair opening closing tokens inner hopening hclosing _ ih =>
      rw [List.map_cons, List.map_append, List.map_singleton, surplus_cons, surplus_append, ih,
        surplus_cons, ← kind, ← kind, hopening, hclosing]
      simp [Kind.surplus]

theorem surplus_letter {token : Token} {letter : Letter} (hletter : token.letter? = some letter) :
    surplus [token.symbol] = 1 := by
  have hkind := token.isSome_letter?_iff.mp (Option.isSome_iff_exists.mpr ⟨letter, hletter⟩)
  rw [surplus_cons, ← kind, hkind]
  rfl

end Token

open Token

/-- A sentence is written with one variable more than it has connectives. -/
theorem Spells.surplus_eq_one {tokens : List Token} {sentence : Sentence}
    (hspells : Spells tokens sentence) : surplus (tokens.map symbol) = 1 := by
  induction hspells with
  | «variable» hletter => exact surplus_letter hletter
  | negation hnot hwraps hletter =>
      rw [List.map_cons, surplus_cons, ← kind, hnot, surplus_of_wraps hwraps, List.map_singleton,
        surplus_letter hletter]
      rfl
  | enclosed hopening hclosing _ ih =>
      rw [surplus_of_wraps (.pair hopening hclosing .bare), ih]
  | alone _ _ ih => exact ih
  | join _ hseparator _ ihGroup ihOperand =>
      rw [List.map_append, List.map_cons, surplus_append, surplus_cons, ihGroup, ihOperand, ← kind,
        hseparator]
      rfl

theorem Reading.surplus_of_readClauses_eq_ok {text : String} {sentence : Sentence}
    (hread : (Sentence.readClauses text).result = .ok sentence) : surplus text.toList = 1 := by
  have hclausal : (Mode.clausal.read text).result = .ok sentence := hread
  rw [← surplus_symbols, ← map_symbol_scan]
  exact (spells_of_read_eq_ok hclausal).surplus_eq_one

theorem Token.Kind.surplus_le_one (kind : Kind) : kind.surplus ≤ 1 := by
  cases kind <;> simp [surplus]

theorem Token.Kind.surplus_eq_one_iff (kind : Kind) : kind.surplus = 1 ↔ kind = .variable := by
  cases kind <;> simp [surplus]

namespace Instance

/-! ## The surplus of an instance -/

/-- The surplus of a text is one at most, and one in full if and only if something holds. -/
structure SurplusTells (text : List Char) (holds : Prop) : Prop where
  le_one : surplus text ≤ 1
  eq_one_iff : surplus text = 1 ↔ holds

/-- Connectives between texts use up what all of them but one have. -/
theorem surplusTells_intercalate {Item : Type} {write : Item → List Char} {holds : Item → Prop}
    {items : List Item} (joint : Connective) (hnonempty : items ≠ [])
    (hitems : ∀ item ∈ items, SurplusTells (write item) (holds item)) :
    SurplusTells (joint.separator.intercalate (items.map write)) (∀ item ∈ items, holds item) := by
  induction items with
  | nil => exact absurd rfl hnonempty
  | cons first others ih =>
      rw [List.forall_mem_cons] at hitems
      obtain ⟨hfirstLe, hfirstIff⟩ := hitems.1
      cases others with
      | nil => exact ⟨by simpa using hfirstLe, by simpa using hfirstIff⟩
      | cons second others =>
          obtain ⟨hrestLe, hrestIff⟩ := ih (List.cons_ne_nil second others) hitems.2
          have hseparator : surplus joint.separator = -1 := by cases joint <;> rfl
          rw [List.map_cons] at hrestLe hrestIff
          rw [List.map_cons, List.map_cons, List.intercalate_cons_cons, List.forall_mem_cons,
            ← hrestIff, ← hfirstIff]
          constructor
          · rw [surplus_append, surplus_append, hseparator]
            omega
          · rw [surplus_append, surplus_append, hseparator]
            omega

theorem isVariableName_iff_kind {name : String} {c : Char} (hname : name.toList = [c]) :
    isVariableName name = true ↔ Kind.ofSymbol c = .variable := by
  have hletter := Token.isSome_letter?_iff ⟨c, 0⟩
  rw [kind] at hletter
  rw [← hletter, isVariableName, hname, Bool.and_eq_true, bne_iff_ne, letter?]
  split
  · next hascii => simpa using hascii
  · next hascii => simpa using hascii

theorem surplusTells_literal {literal : Literal String} (hsingle : literal.name.length = 1) :
    SurplusTells literal.text.toList (isVariableName literal.name = true) := by
  rw [← String.length_toList] at hsingle
  obtain ⟨c, hname⟩ := List.length_eq_one_iff.mp hsingle
  have htext : surplus literal.text.toList = (Kind.ofSymbol c).surplus := by
    have hname' : surplus literal.name.toList = (Kind.ofSymbol c).surplus := by
      rw [hname, surplus_cons, surplus_nil, Int.add_zero]
    have hnegation : surplus negationSymbol.toString.toList = 0 := rfl
    rw [Literal.text]
    split
    · rw [String.toList_append, surplus_append, hnegation, hname', Int.zero_add]
    · exact hname'
  rw [isVariableName_iff_kind hname]
  exact ⟨htext ▸ Kind.surplus_le_one _, htext ▸ Kind.surplus_eq_one_iff _⟩

theorem surplusTells_clauseText {clause : List (Literal String)} (hnonempty : clause ≠ [])
    (hsingle : ∀ literal ∈ clause, literal.name.length = 1) :
    SurplusTells (clauseText clause).toList
      (∀ literal ∈ clause, isVariableName literal.name = true) := by
  have hliterals := surplusTells_intercalate .or hnonempty fun literal hliteral =>
    surplusTells_literal (hsingle literal hliteral)
  have htext : surplus (clauseText clause).toList = surplus (Connective.or.separator.intercalate
      (clause.map fun literal => literal.text.toList)) := by
    have hopening : surplus "(".toList = 0 := rfl
    have hclosing : surplus ")".toList = 0 := rfl
    rw [clauseText, String.toList_append, String.toList_append, String.toList_intercalate,
      List.map_map, surplus_append, surplus_append, hopening, hclosing, Int.add_zero, Int.zero_add]
    rfl
  exact ⟨htext ▸ hliterals.le_one, htext ▸ hliterals.eq_one_iff⟩

theorem surplusTells_text {drawn : List (List (Literal String))} (hnonempty : drawn ≠ [])
    (hclauses : ∀ clause ∈ drawn, clause ≠ [])
    (hsingle : ∀ clause ∈ drawn, ∀ literal ∈ clause, literal.name.length = 1) :
    SurplusTells (text drawn).toList
      (∀ clause ∈ drawn, ∀ literal ∈ clause, isVariableName literal.name = true) := by
  have hdrawn := surplusTells_intercalate .and hnonempty fun clause hclause =>
    surplusTells_clauseText (hclauses clause hclause) (hsingle clause hclause)
  rw [text, String.toList_intercalate, List.map_map]
  exact hdrawn

/-! ## What a draw comes from -/

private theorem run_throw_ne_ok {State Value : Type} {fault : Fault} {state after : State}
    {value : Value} : (throw fault : Draw State Value).run state ≠ (.ok value, after) := by
  intro hrun
  cases hrun

/-- An instance that is drawn has the shape that was asked for and names of the alphabet. -/
theorem of_draw_eq_ok {State : Type} [Source State] {alphabet : List String} {count width : Int}
    {state after : State} {drawn : List (List (Literal String))}
    (hdraw : (draw count alphabet width : Draw State _).run state = (.ok drawn, after)) :
    0 < count ∧ 0 < width ∧ (drawn.length : Int) = count ∧ ∀ clause ∈ drawn,
      (clause.length : Int) = width ∧ ∀ literal ∈ clause, literal.name ∈ alphabet := by
  have hcount : ¬ count < 1 := by
    intro hless
    rw [draw, if_pos hless] at hdraw
    exact run_throw_ne_ok hdraw
  have hwidth : ¬ width < 1 := by
    intro hless
    rw [draw, if_neg hcount, if_pos hless] at hdraw
    exact run_throw_ne_ok hdraw
  have hnonempty : alphabet ≠ [] := by
    rintro rfl
    rw [draw, if_neg hcount, if_neg hwidth] at hdraw
    exact run_throw_ne_ok hdraw
  obtain ⟨drawn', after', hrun, hlength, hclauses⟩ :=
    succeeds_clauses hnonempty width.toNat count.toNat state
  rw [draw, if_neg hcount, if_neg hwidth, if_neg (by simpa using hnonempty), hrun, Prod.mk.injEq,
    Except.ok.injEq] at hdraw
  obtain ⟨rfl, -⟩ := hdraw
  refine ⟨by omega, by omega, by omega, fun clause hclause => ?_⟩
  obtain ⟨hwide, hnames⟩ := hclauses clause hclause
  exact ⟨by omega, hnames⟩

/-! ## The main statement -/

/-- Clauses of names of one character are read if and only if the names are those of variables,
and then they are read as themselves. -/
theorem exists_readClauses_text_iff {drawn : List (List (Literal String))} (hnonempty : drawn ≠ [])
    (hclauses : ∀ clause ∈ drawn, clause ≠ [])
    (hsingle : ∀ clause ∈ drawn, ∀ literal ∈ clause, literal.name.length = 1) :
    (∃ sentence, (Sentence.readClauses (text drawn)).result = .ok sentence) ↔
      ∀ clause ∈ drawn, ∀ literal ∈ clause, isVariableName literal.name = true := by
  constructor
  · rintro ⟨sentence, hread⟩
    exact (surplusTells_text hnonempty hclauses hsingle).eq_one_iff.mp
      (Reading.surplus_of_readClauses_eq_ok hread)
  · intro hnames
    obtain ⟨sentence, hclausal, halphabet, rfl⟩ := exists_sentence hnonempty hclauses hnames
    rw [← Sentence.format_of_isClausal hclausal]
    exact ⟨sentence, (Sentence.reads_format_of_isClausal hclausal halphabet).1⟩

/-- What is read from clauses has these clauses. -/
theorem clauses_of_readClauses_text {drawn : List (List (Literal String))} {sentence : Sentence}
    (hnonempty : drawn ≠ []) (hclauses : ∀ clause ∈ drawn, clause ≠ [])
    (hnames : ∀ clause ∈ drawn, ∀ literal ∈ clause, isVariableName literal.name = true)
    (hread : (Sentence.readClauses (text drawn)).result = .ok sentence) :
    sentence.isClausal = true ∧
      sentence.clauses.map (List.map (Literal.map Letter.text)) = drawn := by
  obtain ⟨sentence', hclausal, halphabet, rfl⟩ := exists_sentence hnonempty hclauses hnames
  rw [← Sentence.format_of_isClausal hclausal,
    (Sentence.reads_format_of_isClausal hclausal halphabet).1, Except.ok.injEq] at hread
  obtain rfl := hread
  exact ⟨hclausal, rfl⟩

/-- **Which instances are read.**  Let an instance be drawn from any source, with names of one
character.  The strict reading accepts its text if and only if every name that was drawn is that
of a variable, which is so for any draw if it is so for the alphabet.  An instance that is read
is read as a conjunction of as many clauses as were asked for, each of as many literals. -/
theorem readClauses_drawn_iff {State : Type} [Source State] {alphabet : List String}
    (hsingle : ∀ name ∈ alphabet, name.length = 1) {count width : Int} {state after : State}
    {drawn : List (List (Literal String))}
    (hdraw : (draw count alphabet width : Draw State _).run state = (.ok drawn, after)) :
    ((∃ sentence, (Sentence.readClauses (text drawn)).result = .ok sentence) ↔
      ∀ clause ∈ drawn, ∀ literal ∈ clause, isVariableName literal.name = true) ∧
    ((∀ name ∈ alphabet, isVariableName name = true) →
      ∃ sentence, (Sentence.readClauses (text drawn)).result = .ok sentence) ∧
    ∀ sentence, (Sentence.readClauses (text drawn)).result = .ok sentence →
      sentence.isClausal = true ∧ (sentence.groupOperands.length : Int) = count ∧
        ∀ clause ∈ sentence.groupOperands, (clause.groupOperands.length : Int) = width := by
  obtain ⟨hcount, hwidth, hlength, hclauses⟩ := of_draw_eq_ok hdraw
  have hnonempty : drawn ≠ [] := List.ne_nil_of_length_pos (by omega)
  have hwide : ∀ clause ∈ drawn, clause ≠ [] := by
    intro clause hclause
    have hclauseLength := (hclauses clause hclause).1
    exact List.ne_nil_of_length_pos (by omega)
  have hdrawnSingle : ∀ clause ∈ drawn, ∀ literal ∈ clause, literal.name.length = 1 :=
    fun clause hclause literal hliteral =>
      hsingle literal.name ((hclauses clause hclause).2 literal hliteral)
  have hiff := exists_readClauses_text_iff hnonempty hwide hdrawnSingle
  refine ⟨hiff, fun hnames => hiff.mpr ?_, fun sentence hread => ?_⟩
  · exact fun clause hclause literal hliteral =>
      hnames literal.name ((hclauses clause hclause).2 literal hliteral)
  · obtain ⟨hclausal, rfl⟩ :=
      clauses_of_readClauses_text hnonempty hwide (hiff.mp ⟨sentence, hread⟩) hread
    refine ⟨hclausal, by simpa [Sentence.clauses] using hlength, fun clause hclause => ?_⟩
    obtain ⟨drawn, hdrawn, hlengths⟩ := Sentence.exists_mem_clauses hclausal hclause
    rw [hlengths]
    exact (hclauses drawn hdrawn).1

/-- Where one of the names is the connective. -/
theorem readClauses_drawn_connective :
    (∀ name ∈ ["A", "b", "v"], name.length = 1) ∧
    ∃ (drawn : List (List (Literal String))) (after : Twister),
      (draw 2 ["A", "b", "v"] 3 : Draw Twister _).run (.ofSeed 7) = (.ok drawn, after) ∧
      ((∃ sentence, (Sentence.readClauses (text drawn)).result = .ok sentence) ↔
        ∀ clause ∈ drawn, ∀ literal ∈ clause, isVariableName literal.name = true) := by
  have hsingle : ∀ name ∈ ["A", "b", "v"], name.length = 1 := by decide +kernel
  obtain ⟨drawn, after, hrun, -⟩ :=
    succeeds_clauses (List.cons_ne_nil "A" ["b", "v"]) 3 2 (Twister.ofSeed 7)
  have hdraw : (draw 2 ["A", "b", "v"] 3 : Draw Twister _).run (.ofSeed 7) = (.ok drawn, after) :=
    hrun
  exact ⟨hsingle, drawn, after, hdraw, (readClauses_drawn_iff hsingle hdraw).1⟩

/-- A name of one character that is no ASCII letter: an instance is drawn, and its text is
refused. -/
theorem readClauses_drawn_accented_ne_ok :
    (∀ name ∈ ["é"], name.length = 1) ∧
    ∃ (drawn : List (List (Literal String))) (after : Twister),
      (draw 1 ["é"] 1 : Draw Twister _).run (.ofSeed 0) = (.ok drawn, after) ∧
      ∀ sentence, (Sentence.readClauses (text drawn)).result ≠ .ok sentence := by
  have hsingle : ∀ name ∈ ["é"], name.length = 1 := by decide +kernel
  obtain ⟨drawn, after, hrun, hlength, hclauses⟩ :=
    succeeds_clauses (List.cons_ne_nil "é" []) 1 1 (Twister.ofSeed 0)
  refine ⟨hsingle, drawn, after, hrun, fun sentence hread => ?_⟩
  obtain ⟨clause, rfl⟩ := List.length_eq_one_iff.mp hlength
  obtain ⟨hwidth, hnames⟩ := hclauses clause List.mem_cons_self
  obtain ⟨⟨negated, name⟩, rfl⟩ := List.length_eq_one_iff.mp hwidth
  obtain rfl : name = "é" := by simpa using hnames _ List.mem_cons_self
  have hrefused : ∀ negated, (Sentence.readClauses (text [[⟨negated, "é"⟩]])).result =
      .error (.unexpectedLiteral "é") := by
    decide +kernel
  rw [hrefused negated] at hread
  simp at hread

end Instance

end Clausal
