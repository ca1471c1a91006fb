import Clausal.Proofs.Instance.Draws
import Clausal.Proofs.Reading.ClausalRoundTrip
import Clausal.Proofs.Sentence.Clauses
import Clausal.Proofs.Sentence.Literals
import Clausal.Proofs.Text.Separators
import Clausal.Random

/-!
# Reading instances back

The text of an instance is put together from its literals without a sentence.  It is still
the text of one: the conjunction of its clauses (`format_of_isClausal`), which the strict
reading reads as itself.  So whatever is drawn from an alphabet of names that a sentence may
have is read back, literal by literal in the order of the draws.
-/

namespace Clausal

open Grouping Token

/-! ## Names that are letters -/

/-- The text of a letter. -/
def Letter.text (letter : Letter) : String := letter.char.toString

@[simp] theorem Letter.toList_text (letter : Letter) : letter.text.toList = [letter.char] :=
  String.toList_singleton letter.char

/-- Whether a name is that of a variable in the alphabet: one ASCII letter, and no
connective. -/
def Instance.isVariableName (name : String) : Bool :=
  match name.toList with
  | [c] => c.isAlpha && c != Connective.or.symbol
  | _ => false

theorem Instance.isVariableName_eq_true_iff {name : String} :
    isVariableName name = true ↔
      ∃ letter : Letter, letter.char.isAlpha = true ∧ letter.text = name := by
  constructor
  · intro hname
    rw [isVariableName] at hname
    split at hname
    · next c hlist =>
        rw [Bool.and_eq_true, bne_iff_ne] at hname
        refine ⟨⟨c, Text.isLetter_of_isAlpha hname.1, hname.2⟩, hname.1, ?_⟩
        rw [← String.toList_inj, hlist, Letter.toList_text]
    · simp at hname
  · rintro ⟨letter, hascii, rfl⟩
    simp [isVariableName, hascii, letter.notConnective]

/-- What all values of a list come from makes a list, too. -/
private theorem exists_map_eq {Item Value : Type} {holds : Item → Prop} {change : Item → Value}
    {values : List Value} (hvalues : ∀ value ∈ values, ∃ item, holds item ∧ change item = value) :
    ∃ items : List Item, (∀ item ∈ items, holds item) ∧ items.map change = values := by
  induction values with
  | nil => exact ⟨[], by simp⟩
  | cons value rest ih =>
      rw [List.forall_mem_cons] at hvalues
      obtain ⟨item, hitem, rfl⟩ := hvalues.1
      obtain ⟨items, hitems, rfl⟩ := ih hvalues.2
      exact ⟨item :: items, List.forall_mem_cons.mpr ⟨hitem, hitems⟩, rfl⟩

namespace Sentence

/-! ## The clauses of a sentence -/

theorem exists_eq_ofLiteral {sentence : Sentence} (hliteral : sentence.isLiteral = true) :
    ∃ literal, sentence = ofLiteral literal := by
  match sentence with
  | .variable name => exact ⟨⟨false, name⟩, rfl⟩
  | .negation (.variable name) => exact ⟨⟨true, name⟩, rfl⟩

/-- The literals of the operands. -/
def clauses (sentence : Sentence) : List (List (Literal Letter)) :=
  sentence.groupOperands.map literals

theorem literals_eq_flatMap_groupOperands {sentence : Sentence} (hgroup : sentence.isGroup = true) :
    sentence.literals = sentence.groupOperands.flatMap literals := by
  match sentence with
  | .group joint first others => rw [literals_group, groupOperands, List.flatMap_cons]

/-- The operands of a clause are its literals. -/
theorem groupOperands_of_isClause {clause : Sentence} (hclause : clause.isClause = true) :
    clause.groupOperands = clause.literals.map ofLiteral := by
  obtain ⟨first, others, rfl, hliterals⟩ := isClause_eq_true_iff.mp hclause
  have hoperands : ∀ operand ∈ first :: others, [operand] = (literals operand).map ofLiteral := by
    intro operand hoperand
    obtain ⟨literal, rfl⟩ := exists_eq_ofLiteral (hliterals operand hoperand)
    rw [literals_ofLiteral, List.map_singleton]
  rw [literals_eq_flatMap_groupOperands rfl, groupOperands, List.map_flatMap]
  calc first :: others
      = (first :: others).flatMap fun operand => [operand] := (List.flatMap_singleton' _).symm
    _ = (first :: others).flatMap fun operand => (literals operand).map ofLiteral :=
        List.flatMap_congr hoperands

theorem literals_eq_flatten_clauses {sentence : Sentence} (hclausal : sentence.isClausal = true) :
    sentence.literals = sentence.clauses.flatten := by
  obtain ⟨first, others, rfl, -⟩ := isClausal_eq_true_iff.mp hclausal
  rw [literals_eq_flatMap_groupOperands rfl, clauses, List.flatMap_def]

theorem isClause_of_mem_groupOperands {sentence clause : Sentence}
    (hclausal : sentence.isClausal = true) (hclause : clause ∈ sentence.groupOperands) :
    clause.isClause = true := by
  obtain ⟨first, others, rfl, hclauses⟩ := isClausal_eq_true_iff.mp hclausal
  exact hclauses clause hclause

/-- An operand has as many operands as the clause that it is has literals. -/
theorem exists_mem_clauses {sentence clause : Sentence} (hclausal : sentence.isClausal = true)
    (hclause : clause ∈ sentence.groupOperands) :
    ∃ drawn ∈ sentence.clauses.map (List.map (Literal.map Letter.text)),
      clause.groupOperands.length = drawn.length := by
  refine ⟨_, List.mem_map_of_mem (List.mem_map_of_mem hclause), ?_⟩
  rw [groupOperands_of_isClause (isClause_of_mem_groupOperands hclausal hclause),
    List.length_map, List.length_map]

theorem inAlphabet_iff {sentence : Sentence} :
    sentence.inAlphabet = true ↔
      ∀ literal ∈ sentence.literals, literal.name.char.isAlpha = true := by
  rw [inAlphabet, ← map_name_literals, List.all_map, List.all_eq_true]
  rfl

theorem exists_isClause {literals : List (Literal Letter)} (hnonempty : literals ≠ []) :
    ∃ clause : Sentence, clause.isClause = true ∧ clause.literals = literals := by
  obtain ⟨first, others, rfl⟩ := List.exists_cons_of_ne_nil hnonempty
  refine ⟨.disjunction (ofLiteral first) (others.map ofLiteral), ?_, ?_⟩
  · refine isClause_eq_true_iff.mpr ⟨_, _, rfl, ?_⟩
    rw [← List.map_cons, List.forall_mem_map]
    exact fun literal _ => isLiteral_ofLiteral literal
  · rw [literals_group, literals_ofLiteral, List.flatMap_map]
    simp [literals_ofLiteral]

/-- Any clauses are those of a sentence, if there are some and none is empty. -/
theorem exists_isClausal {clauses : List (List (Literal Letter))} (hnonempty : clauses ≠ [])
    (hclauses : ∀ clause ∈ clauses, clause ≠ []) :
    ∃ sentence : Sentence, sentence.isClausal = true ∧ sentence.clauses = clauses := by
  obtain ⟨operands, hoperands, rfl⟩ :=
    exists_map_eq fun clause hclause => exists_isClause (hclauses clause hclause)
  have hsome : operands ≠ [] := mt (congrArg (List.map literals)) hnonempty
  obtain ⟨first, others, rfl⟩ := List.exists_cons_of_ne_nil hsome
  exact ⟨.conjunction first others, isClausal_eq_true_iff.mpr ⟨first, others, rfl, hoperands⟩, rfl⟩

/-! ## Its text -/

theorem render_group (joint : Connective) (first : Sentence) (others : List Sentence) :
    render (.group joint first others) =
      joint.separator.intercalate ((first :: others).map renderOperand) := by
  rw [render, renderOthers_eq_flatMap, ← renderOperand, List.map_cons,
    Text.intercalate_cons_eq_append_flatMap, List.flatMap_map]

theorem renderOperand_ofLiteral (literal : Literal Letter) :
    (ofLiteral literal).renderOperand = (literal.map Letter.text).text.toList := by
  obtain ⟨negated, name⟩ := literal
  cases negated
  · exact (Letter.toList_text name).symm
  · rw [Literal.map, Literal.text, if_pos rfl, String.toList_append, Letter.toList_text]
    rfl

/-- A clause is written by the formatter as it is by the generator. -/
theorem renderOperand_of_isClause {clause : Sentence} (hclause : clause.isClause = true) :
    clause.renderOperand =
      (Instance.clauseText (clause.literals.map (Literal.map Letter.text))).toList := by
  have hoperands := groupOperands_of_isClause hclause
  obtain ⟨first, others, rfl, -⟩ := isClause_eq_true_iff.mp hclause
  have htexts : (first :: others).map renderOperand =
      (((literals (.group .or first others)).map (Literal.map Letter.text)).map
        Literal.text).map String.toList := by
    rw [← groupOperands.eq_1, hoperands]
    simp only [List.map_map]
    exact List.map_congr_left fun literal _ => renderOperand_ofLiteral literal
  rw [renderOperand, asOperand, isGroup, if_pos rfl, render_group, htexts, Instance.clauseText,
    String.toList_append, String.toList_append, String.toList_intercalate]
  rfl

/-- So is a conjunction of clauses. -/
theorem format_of_isClausal {sentence : Sentence} (hclausal : sentence.isClausal = true) :
    sentence.format .inline =
      Instance.text (sentence.clauses.map (List.map (Literal.map Letter.text))) := by
  obtain ⟨first, others, rfl, hclauses⟩ := isClausal_eq_true_iff.mp hclausal
  rw [← String.toList_inj, format, String.toList_ofList, render_group, Instance.text,
    String.toList_intercalate, clauses, groupOperands]
  simp only [List.map_map]
  congr 1
  exact List.map_congr_left fun clause hclause =>
    renderOperand_of_isClause (hclauses clause hclause)

/-! ## Its readings -/

theorem readable_of_isClausal {sentence : Sentence} (hclausal : sentence.isClausal = true)
    (halphabet : sentence.inAlphabet = true) : Readable sentence := by
  obtain ⟨first, others, rfl, hclauses⟩ := isClausal_eq_true_iff.mp hclausal
  refine readable_group_iff.mpr fun clause hclause => ?_
  have hletters := inAlphabet_group.mp halphabet clause hclause
  obtain ⟨_, _, rfl, hliterals⟩ := isClause_eq_true_iff.mp (hclauses clause hclause)
  refine readable_group_iff.mpr fun literal hliteral => ?_
  exact (direct_of_isLiteral (hliterals literal hliteral)
    (inAlphabet_group.mp hletters literal hliteral)).toReadable

/-- Both readings accept the text of a conjunction of clauses. -/
theorem reads_format_of_isClausal {sentence : Sentence} (hclausal : sentence.isClausal = true)
    (halphabet : sentence.inAlphabet = true) :
    (readClauses (sentence.format .inline)).result = .ok sentence ∧
      (read (sentence.format .inline)).result = .ok sentence.collapse := by
  refine ⟨readClauses_format_of_isClausal hclausal halphabet .inline, ?_⟩
  rw [← Reading.outcome_eq_ok_iff, sentence.outcome_read_format,
    if_pos (readable_of_isClausal hclausal halphabet)]

end Sentence

namespace Instance

/-- Clauses of names in the alphabet are those of a sentence. -/
theorem exists_sentence {drawn : List (List (Literal String))} (hnonempty : drawn ≠ [])
    (hclauses : ∀ clause ∈ drawn, clause ≠ [])
    (hnames : ∀ clause ∈ drawn, ∀ literal ∈ clause, isVariableName literal.name = true) :
    ∃ sentence : Sentence, sentence.isClausal = true ∧ sentence.inAlphabet = true ∧
      sentence.clauses.map (List.map (Literal.map Letter.text)) = drawn := by
  have hliteral : ∀ clause ∈ drawn, ∀ literal ∈ clause, ∃ found : Literal Letter,
      found.name.char.isAlpha = true ∧ found.map Letter.text = literal := by
    intro clause hclause literal hmem
    obtain ⟨letter, hascii, hname⟩ :=
      isVariableName_eq_true_iff.mp (hnames clause hclause literal hmem)
    exact ⟨⟨literal.negated, letter⟩, hascii, by rw [Literal.map, hname]⟩
  obtain ⟨clauses, hascii, rfl⟩ :=
    exists_map_eq fun clause hclause => exists_map_eq (hliteral clause hclause)
  rw [List.forall_mem_map] at hclauses
  obtain ⟨sentence, hclausal, rfl⟩ := Sentence.exists_isClausal (mt (congrArg _) hnonempty)
    fun clause hclause => mt (congrArg _) (hclauses clause hclause)
  refine ⟨sentence, hclausal, Sentence.inAlphabet_iff.mpr ?_, rfl⟩
  rw [Sentence.literals_eq_flatten_clauses hclausal]
  intro literal hmem
  obtain ⟨clause, hclause, hmem⟩ := List.mem_flatten.mp hmem
  exact hascii clause hclause literal hmem

/-- What is drawn with names of variables are the clauses of a sentence. -/
theorem exists_sentence_of_draw {State : Type} [Source State] {alphabet : List String}
    (hnonempty : alphabet ≠ []) (hnames : ∀ name ∈ alphabet, isVariableName name = true)
    {count width : Nat} (hcount : 0 < count) (hwidth : 0 < width) (state : State) :
    ∃ (drawn : List (List (Literal String))) (after : State) (sentence : Sentence),
      (draw count alphabet width : Draw State _).run state = (.ok drawn, after) ∧
      sentence.clauses.map (List.map (Literal.map Letter.text)) = drawn ∧
      sentence.isClausal = true ∧ sentence.inAlphabet = true ∧
      sentence.groupOperands.length = count ∧
      (∀ clause ∈ sentence.groupOperands, clause.groupOperands.length = width) ∧
      ∀ literal ∈ sentence.literals, literal.name.text ∈ alphabet := by
  obtain ⟨drawn, after, hrun, hlength, hclauses⟩ := succeeds_clauses hnonempty width count state
  have hdrawn : drawn ≠ [] := List.ne_nil_of_length_pos (hlength ▸ hcount)
  have hwide : ∀ clause ∈ drawn, clause ≠ [] := by
    intro clause hclause
    exact List.ne_nil_of_length_pos ((hclauses clause hclause).1 ▸ hwidth)
  have hvariables : ∀ clause ∈ drawn, ∀ literal ∈ clause, isVariableName literal.name = true := by
    intro clause hclause literal hliteral
    exact hnames literal.name ((hclauses clause hclause).2 literal hliteral)
  obtain ⟨sentence, hclausal, halphabet, rfl⟩ := exists_sentence hdrawn hwide hvariables
  rw [← draw_eq_clauses hnonempty hcount hwidth] at hrun
  refine ⟨_, after, sentence, hrun, rfl, hclausal, halphabet, ?_, ?_, ?_⟩
  · simpa [Sentence.clauses] using hlength
  · intro clause hclause
    obtain ⟨drawn, hdrawn, hlengths⟩ := Sentence.exists_mem_clauses hclausal hclause
    rw [hlengths]
    exact (hclauses drawn hdrawn).1
  · rw [Sentence.literals_eq_flatten_clauses hclausal]
    intro literal hliteral
    obtain ⟨clause, hclause, hliteral⟩ := List.mem_flatten.mp hliteral
    exact (hclauses _ (List.mem_map_of_mem hclause)).2 _ (List.mem_map_of_mem hliteral)

/-! ## The main statement -/

/-- **Reading instances back.**  Let an instance be drawn from any source, with one clause or
more, one literal or more in each, and names that are those of variables.  The draw succeeds.
The text is read strictly as a conjunction of as many clauses as are asked for, each a
disjunction of as many literals; these are, in order, what as many draws of a single literal
get, which leave the source where the draw of the instance does.  The text of that sentence is
the text of the instance, and the direct reading accepts it, too. -/
theorem draw_reads_back {State : Type} [Source State] {alphabet : List String}
    (hnonempty : alphabet ≠ []) (hnames : ∀ name ∈ alphabet, isVariableName name = true)
    {count width : Nat} (hcount : 0 < count) (hwidth : 0 < width) (state : State) :
    ∃ (drawn : List (List (Literal String))) (after : State) (sentence : Sentence),
      (draw count alphabet width : Draw State _).run state = (.ok drawn, after) ∧
      (Sentence.readClauses (text drawn)).result = .ok sentence ∧
      sentence.isClausal = true ∧
      sentence.groupOperands.length = count ∧
      (∀ clause ∈ sentence.groupOperands, clause.groupOperands.length = width) ∧
      (times (literal alphabet) (count * width) : Draw State _).run state =
        (.ok (sentence.literals.map (Literal.map Letter.text)), after) ∧
      sentence.format .inline = text drawn ∧
      (Sentence.read (text drawn)).result = .ok sentence.collapse := by
  obtain ⟨_, after, sentence, hrun, rfl, hclausal, halphabet, hlength, hclauses, -⟩ :=
    exists_sentence_of_draw hnonempty hnames hcount hwidth state
  have hformat := Sentence.format_of_isClausal hclausal
  obtain ⟨hstrict, hdirect⟩ := Sentence.reads_format_of_isClausal hclausal halphabet
  rw [hformat] at hstrict hdirect
  refine ⟨_, after, sentence, hrun, hstrict, hclausal, hlength, hclauses, ?_, hformat, hdirect⟩
  -- an instance is drawn literal by literal
  rw [draw_eq_clauses hnonempty hcount hwidth] at hrun
  rw [literals_eq_flatten_clauses, run_map_of_ok hrun, ← List.map_flatten,
    Sentence.literals_eq_flatten_clauses hclausal]

/-- With the usual alphabet and width, and the source that a seed gives. -/
theorem draw_usual_reads_back :
    usualAlphabet ≠ [] ∧ (∀ name ∈ usualAlphabet, isVariableName name = true) ∧
    ∃ (drawn : List (List (Literal String))) (after : Twister) (sentence : Sentence),
      (draw 57 usualAlphabet usualWidth : Draw Twister _).run (.ofSeed 7) = (.ok drawn, after) ∧
      (Sentence.readClauses (text drawn)).result = .ok sentence ∧
      sentence.groupOperands.length = 57 ∧ sentence.format .inline = text drawn := by
  have hnonempty : usualAlphabet ≠ [] := by decide
  have hnames : ∀ name ∈ usualAlphabet, isVariableName name = true := by decide +kernel
  have hcount : 0 < 57 := by decide
  have hwidth : 0 < usualWidth := by decide
  obtain ⟨drawn, after, sentence, hrun, hread, -, hlength, -, -, hformat, -⟩ :=
    draw_reads_back hnonempty hnames hcount hwidth (Twister.ofSeed 7)
  exact ⟨hnonempty, hnames, drawn, after, sentence, hrun, hread, hlength, hformat⟩

end Instance

end Clausal
