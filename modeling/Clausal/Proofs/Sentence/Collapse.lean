import Clausal.Sentence.Shape
import Mathlib.Data.List.Basic

/-!
# Sentences that a text can have

Two things are lost when a sentence is written down and read again.  A group of one
operand is read as that operand, so `collapse` replaces such groups at every depth.
And not every sentence is a text of the language: its letters have to be ASCII
letters (`inAlphabet`), and what is negated has to be a variable
(`negatesVariables`) once the groups of one operand are gone.

A sentence is `Direct` if it has these two properties and nothing to collapse.
-/

namespace Clausal

namespace Sentence

/-! ## Induction over operands -/

/-- A property holds of all sentences if it passes from operands to groups. -/
theorem operand_induction {motive : Sentence → Prop}
    («variable» : ∀ name, motive (.variable name))
    (negation : ∀ operand, motive operand → motive (.negation operand))
    (group : ∀ joint first others, motive first → (∀ other ∈ others, motive other) →
      motive (.group joint first others))
    (sentence : Sentence) : motive sentence := by
  refine @Sentence.rec motive (fun sentences => ∀ sentence ∈ sentences, motive sentence)
    «variable» negation group ?_ ?_ sentence
  · simp
  · intro sentence rest hsentence hrest
    exact List.forall_mem_cons.mpr ⟨hsentence, hrest⟩

/-- What changes none of some sentences changes nothing of their list. -/
theorem map_eq_self {change : Sentence → Sentence} {sentences : List Sentence}
    (hkept : ∀ sentence ∈ sentences, change sentence = sentence) :
    sentences.map change = sentences := by
  calc sentences.map change
      = sentences.map id := List.map_congr_left hkept
    _ = sentences := List.map_id sentences

/-! ## Groups of one operand -/

/-- The group of some operands, or the operand itself if it is the only one. -/
def groupOf (joint : Connective) (first : Sentence) : List Sentence → Sentence
  | [] => first
  | second :: others => .group joint first (second :: others)

mutual

/-- The sentence with its operand in place of every group of one operand. -/
def collapse : Sentence → Sentence
  | .variable name => .variable name
  | .negation operand => .negation operand.collapse
  | .group joint first others => groupOf joint first.collapse (collapseList others)

/-- A list of sentences, each collapsed. -/
def collapseList : List Sentence → List Sentence
  | [] => []
  | sentence :: rest => sentence.collapse :: collapseList rest

end

theorem collapseList_eq_map (sentences : List Sentence) :
    collapseList sentences = sentences.map collapse := by
  induction sentences with
  | nil => rfl
  | cons sentence rest ih => rw [collapseList, List.map_cons, ih]

theorem collapse_group_nil (joint : Connective) (first : Sentence) :
    collapse (.group joint first []) = first.collapse := by
  rw [collapse, collapseList, groupOf]

theorem collapse_group_of_ne_nil (joint : Connective) (first : Sentence) {others : List Sentence}
    (hnonempty : others ≠ []) :
    collapse (.group joint first others) = .group joint first.collapse (others.map collapse) := by
  obtain ⟨second, rest, rfl⟩ := List.exists_cons_of_ne_nil hnonempty
  rw [collapse, collapseList_eq_map, List.map_cons, groupOf]

example : collapse (.negation (.group .or (.variable ⟨'A', by decide, by decide⟩) [])) =
    .negation (.variable ⟨'A', by decide, by decide⟩) := rfl

/-! ## What is negated -/

mutual

/-- Whether every negation is that of a variable. -/
def negatesVariables : Sentence → Bool
  | .variable _ => true
  | .negation operand => operand.isVariable
  | .group _ first others => first.negatesVariables && negatesVariablesList others

/-- Whether every negation in a list of sentences is that of a variable. -/
def negatesVariablesList : List Sentence → Bool
  | [] => true
  | sentence :: rest => sentence.negatesVariables && negatesVariablesList rest

end

theorem negatesVariablesList_eq_all (sentences : List Sentence) :
    negatesVariablesList sentences = sentences.all negatesVariables := by
  induction sentences with
  | nil => rfl
  | cons sentence rest ih => rw [negatesVariablesList, List.all_cons, ih]

theorem negatesVariables_group {joint : Connective} {first : Sentence} {others : List Sentence} :
    negatesVariables (.group joint first others) = true ↔
      ∀ operand ∈ first :: others, operand.negatesVariables = true := by
  rw [negatesVariables, negatesVariablesList_eq_all, ← List.all_cons, List.all_eq_true]

/-! ## The alphabet -/

/-- Whether every letter is an ASCII letter. -/
def inAlphabet (sentence : Sentence) : Bool :=
  sentence.letters.all fun letter => letter.char.isAlpha

theorem lettersOfList_eq_flatMap (sentences : List Sentence) :
    lettersOfList sentences = sentences.flatMap letters := by
  induction sentences with
  | nil => rfl
  | cons sentence rest ih => rw [lettersOfList, List.flatMap_cons, ih]

@[simp] theorem inAlphabet_variable (name : Letter) :
    inAlphabet (.variable name) = name.char.isAlpha := by
  simp [inAlphabet, letters]

@[simp] theorem inAlphabet_negation (operand : Sentence) :
    inAlphabet (.negation operand) = operand.inAlphabet := by
  simp [inAlphabet, letters]

theorem inAlphabet_group {joint : Connective} {first : Sentence} {others : List Sentence} :
    inAlphabet (.group joint first others) = true ↔
      ∀ operand ∈ first :: others, operand.inAlphabet = true := by
  simp only [inAlphabet, letters, lettersOfList_eq_flatMap, ← List.flatMap_cons, List.all_flatMap,
    List.all_eq_true]

/-- Collapsing takes groups away and no letters. -/
theorem letters_collapse (sentence : Sentence) : sentence.collapse.letters = sentence.letters := by
  induction sentence using operand_induction with
  | «variable» name => rfl
  | negation operand ih => rw [collapse, letters, letters, ih]
  | group joint first others ihFirst ihOthers =>
      cases others with
      | nil =>
          rw [collapse_group_nil, ihFirst, letters, lettersOfList, List.append_nil]
      | cons second others =>
          have hothers : ((second :: others).map collapse).flatMap letters =
              (second :: others).flatMap letters := by
            rw [List.flatMap_map]
            exact List.flatMap_congr ihOthers
          rw [collapse_group_of_ne_nil joint first (List.cons_ne_nil second others), letters,
            letters, lettersOfList_eq_flatMap, lettersOfList_eq_flatMap, hothers, ihFirst]

theorem inAlphabet_collapse (sentence : Sentence) :
    sentence.collapse.inAlphabet = sentence.inAlphabet := by
  rw [inAlphabet, letters_collapse, inAlphabet]

/-! ## Readable and direct sentences -/

/-- What the text of a sentence needs to be one of the language. -/
structure Readable (sentence : Sentence) : Prop where
  inAlphabet : sentence.inAlphabet = true
  negatesVariables : sentence.collapse.negatesVariables = true

instance (sentence : Sentence) : Decidable (Readable sentence) :=
  decidable_of_iff (sentence.inAlphabet = true ∧ sentence.collapse.negatesVariables = true)
    ⟨fun hboth => ⟨hboth.1, hboth.2⟩, fun hreadable => ⟨hreadable.1, hreadable.2⟩⟩

/-- A readable sentence with nothing to collapse. -/
structure Direct (sentence : Sentence) : Prop extends Readable sentence where
  collapse_eq : sentence.collapse = sentence

theorem readable_variable_iff {name : Letter} :
    Readable (.variable name) ↔ name.char.isAlpha = true := by
  constructor
  · intro hreadable
    simpa using hreadable.inAlphabet
  · intro hascii
    exact ⟨by simpa using hascii, rfl⟩

theorem readable_negation_iff {operand : Sentence} :
    Readable (.negation operand) ↔
      ∃ name, operand.collapse = .variable name ∧ name.char.isAlpha = true := by
  constructor
  · intro hreadable
    have hvariable : operand.collapse.isVariable = true := by
      simpa [collapse, Sentence.negatesVariables] using hreadable.negatesVariables
    have halphabet : operand.collapse.inAlphabet = true := by
      rw [inAlphabet_collapse, ← inAlphabet_negation]
      exact hreadable.inAlphabet
    cases hcollapse : operand.collapse with
    | «variable» name =>
        rw [hcollapse, inAlphabet_variable] at halphabet
        exact ⟨name, rfl, halphabet⟩
    | negation | group => simp [hcollapse, isVariable] at hvariable
  · rintro ⟨name, hcollapse, hascii⟩
    refine ⟨?_, ?_⟩
    · rw [inAlphabet_negation, ← inAlphabet_collapse, hcollapse, inAlphabet_variable, hascii]
    · rw [collapse, Sentence.negatesVariables, hcollapse, isVariable]

theorem readable_group_nil_iff {joint : Connective} {first : Sentence} :
    Readable (.group joint first []) ↔ Readable first := by
  constructor
  · intro hreadable
    refine ⟨inAlphabet_group.mp hreadable.inAlphabet first (by simp), ?_⟩
    simpa only [collapse_group_nil] using hreadable.negatesVariables
  · intro hreadable
    refine ⟨inAlphabet_group.mpr (by simpa using hreadable.inAlphabet), ?_⟩
    simpa only [collapse_group_nil] using hreadable.negatesVariables

/-- A group is readable if its operands are. -/
theorem readable_group_iff {joint : Connective} {first : Sentence} {others : List Sentence} :
    Readable (.group joint first others) ↔ ∀ operand ∈ first :: others, Readable operand := by
  cases others with
  | nil => rw [readable_group_nil_iff, List.forall_mem_singleton]
  | cons second others =>
      have hcollapse := collapse_group_of_ne_nil joint first (List.cons_ne_nil second others)
      constructor
      · intro hreadable operand hoperand
        refine ⟨inAlphabet_group.mp hreadable.inAlphabet operand hoperand, ?_⟩
        have hnegates := hreadable.negatesVariables
        rw [hcollapse, negatesVariables_group, ← List.map_cons] at hnegates
        exact hnegates _ (List.mem_map_of_mem hoperand)
      · intro hreadable
        refine ⟨inAlphabet_group.mpr fun operand hoperand =>
          (hreadable operand hoperand).inAlphabet, ?_⟩
        rw [hcollapse, negatesVariables_group, ← List.map_cons, List.forall_mem_map]
        exact fun operand hoperand => (hreadable operand hoperand).negatesVariables

theorem direct_group {joint : Connective} {first : Sentence} {others : List Sentence}
    (hnonempty : others ≠ []) (hfirst : Direct first) (hothers : ∀ other ∈ others, Direct other) :
    Direct (.group joint first others) := by
  refine ⟨readable_group_iff.mpr ?_, ?_⟩
  · exact List.forall_mem_cons.mpr
      ⟨hfirst.toReadable, fun other hother => (hothers other hother).toReadable⟩
  · rw [collapse_group_of_ne_nil joint first hnonempty, hfirst.collapse_eq,
      map_eq_self fun other hother => (hothers other hother).collapse_eq]

/-- Literals over ASCII letters are direct. -/
theorem direct_of_isLiteral {sentence : Sentence} (hliteral : sentence.isLiteral = true)
    (halphabet : sentence.inAlphabet = true) : Direct sentence := by
  cases sentence with
  | «variable» name => exact ⟨⟨halphabet, rfl⟩, rfl⟩
  | negation operand =>
      cases operand with
      | «variable» name => exact ⟨⟨halphabet, rfl⟩, rfl⟩
      | negation | group => simp [isLiteral, isVariable] at hliteral
  | group => simp [isLiteral] at hliteral

theorem isLiteral_ofLiteral (literal : Literal Letter) : (ofLiteral literal).isLiteral = true := by
  rw [ofLiteral]
  split <;> rfl

theorem inAlphabet_ofLiteral (literal : Literal Letter) :
    (ofLiteral literal).inAlphabet = literal.name.char.isAlpha := by
  rw [ofLiteral]
  split <;> simp

end Sentence

end Clausal
