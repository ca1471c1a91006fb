import Clausal.Letter

/-!
# Sentences

A sentence is a variable, a negation, or a group: one or more operands under a
connective.  That a group has an operand, and that a variable's name is a letter,
is part of the type, so every value of it is a sentence.
-/

namespace Clausal

/-- A propositional sentence.  A group has a first operand and any number of
others. -/
inductive Sentence where
  | variable (name : Letter)
  | negation (operand : Sentence)
  | group (connective : Connective) (first : Sentence) (others : List Sentence)

namespace Sentence

/-- A group of disjuncts. -/
abbrev disjunction (first : Sentence) (others : List Sentence) : Sentence :=
  group .or first others

/-- A group of conjuncts. -/
abbrev conjunction (first : Sentence) (others : List Sentence) : Sentence :=
  group .and first others

/-- The sentence that a literal is. -/
def ofLiteral (literal : Literal Letter) : Sentence :=
  if literal.negated then negation (.variable literal.name) else .variable literal.name

/-- The operands of a group, in order; a variable or a negation has none. -/
def groupOperands : Sentence → List Sentence
  | group _ first others => first :: others
  | _ => []

/-- Whether the sentence is a group. -/
def isGroup : Sentence → Bool
  | group .. => true
  | _ => false

/-! ## Equality -/

mutual

/-- Equality of sentences is decided by their structure, in order. -/
protected def decideEq : (left right : Sentence) → Decidable (left = right)
  | .variable name, .variable name' =>
    if same : name = name' then isTrue (by rw [same])
    else isFalse (by simp [same])
  | .negation operand, .negation operand' =>
    match Sentence.decideEq operand operand' with
    | isTrue same => isTrue (by rw [same])
    | isFalse different => isFalse (by simp [different])
  | .group connective first others, .group connective' first' others' =>
    if sameConnective : connective = connective' then
      match Sentence.decideEq first first', Sentence.decideEqList others others' with
      | isTrue sameFirst, isTrue sameOthers =>
        isTrue (by rw [sameConnective, sameFirst, sameOthers])
      | isFalse different, _ => isFalse (by simp [different])
      | _, isFalse different => isFalse (by simp [different])
    else isFalse (by simp [sameConnective])
  | .variable _, .negation _ => isFalse nofun
  | .variable _, .group .. => isFalse nofun
  | .negation _, .variable _ => isFalse nofun
  | .negation _, .group .. => isFalse nofun
  | .group .., .variable _ => isFalse nofun
  | .group .., .negation _ => isFalse nofun

/-- Lists of sentences are equal if they agree sentence by sentence. -/
protected def decideEqList : (left right : List Sentence) → Decidable (left = right)
  | [], [] => isTrue rfl
  | [], _ :: _ => isFalse nofun
  | _ :: _, [] => isFalse nofun
  | sentence :: rest, sentence' :: rest' =>
    match Sentence.decideEq sentence sentence', Sentence.decideEqList rest rest' with
    | isTrue same, isTrue sameRest => isTrue (by rw [same, sameRest])
    | isFalse different, _ => isFalse (by simp [different])
    | _, isFalse different => isFalse (by simp [different])

end

instance : DecidableEq Sentence := Sentence.decideEq

end Sentence

end Clausal
