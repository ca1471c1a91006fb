import Clausal.Sentence.Basic

/-!
# The shape of a sentence

What a sentence consists of: its letters, its nodes in preorder, and whether it is a
literal or a conjunction of clauses.
-/

namespace Clausal

namespace Sentence

/-! ## Letters -/

mutual

/-- The letters of a sentence from left to right, with repetitions. -/
def letters : Sentence → List Letter
  | .variable name => [name]
  | .negation operand => operand.letters
  | .group _ first others => first.letters ++ lettersOfList others

/-- The letters of a list of sentences from left to right. -/
def lettersOfList : List Sentence → List Letter
  | [] => []
  | sentence :: rest => sentence.letters ++ lettersOfList rest

end

/-- The letters of a sentence, each once, in increasing order. -/
def distinctLetters (sentence : Sentence) : List Letter :=
  sentence.letters.eraseDups.mergeSort fun left right => left.char ≤ right.char

/-! ## Nodes -/

/-- What stands at a node of a sentence, without what hangs below it. -/
inductive Node where
  | variable (name : Letter)
  | negation
  | group (connective : Connective) (size : Nat)
  deriving DecidableEq

mutual

/-- The nodes of a sentence, each before those below it, from left to right. -/
def preorder : Sentence → List Node
  | .variable name => [.variable name]
  | .negation operand => .negation :: operand.preorder
  | .group connective first others =>
    .group connective (others.length + 1) :: (first.preorder ++ preorderOfList others)

/-- The nodes of a list of sentences, one sentence after the other. -/
def preorderOfList : List Sentence → List Node
  | [] => []
  | sentence :: rest => sentence.preorder ++ preorderOfList rest

end

/-! ## Normal forms -/

/-- Whether the sentence is a variable. -/
def isVariable : Sentence → Bool
  | .variable _ => true
  | _ => false

/-- Whether the sentence is a variable or the negation of one. -/
def isLiteral : Sentence → Bool
  | .variable _ => true
  | .negation operand => operand.isVariable
  | .group .. => false

/-- Whether the sentence is a disjunction of literals. -/
def isClause : Sentence → Bool
  | .group .or first others => (first :: others).all isLiteral
  | _ => false

/-- Whether the sentence is a conjunction of disjunctions of literals. -/
def isClausal : Sentence → Bool
  | .group .and first others => (first :: others).all isClause
  | _ => false

end Sentence

end Clausal
