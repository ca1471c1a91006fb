import Clausal.Reading.Basic
import Clausal.Sentence.Basic

/-!
# Reading a sentence

The direct reading: conjunction binds loosest, then disjunction, then negation, and
parentheses may stand around anything.  A range that joins nothing at a level is
read at the next one, so a group of one operand is read as that operand.

The three levels call one another, and a range may pass from one to the next
unchanged.  Each call takes one unit from a budget.  A range is given three units
for each of its connectives and three more: between two readings of a sentence the
number of connectives falls.
-/

namespace Clausal

namespace Reading

mutual

/-- Reads a range as conjuncts, or as a disjunction if there is one only. -/
def sentence (text : List Char) : Nat → (tokens context : List Token) → Reading Sentence
  | 0, _, _ => fail .budgetSpent
  | budget + 1, tokens, context => do
    let inner ← strip tokens
    match Grouping.operands .and inner with
    | (_, []) => disjunction text budget inner context
    | (first, others) => do
      let first ← disjunction text budget first inner
      let others ← others.mapM fun operand => disjunction text budget operand inner
      pure (.conjunction first others)

/-- Reads a range as disjuncts, or as an operand if there is one only. -/
def disjunction (text : List Char) : Nat → (tokens context : List Token) → Reading Sentence
  | 0, _, _ => fail .budgetSpent
  | budget + 1, tokens, context => do
    let inner ← strip tokens
    match Grouping.operands .or inner with
    | (_, []) => operand text budget inner context
    | (first, others) => do
      let first ← operand text budget first inner
      let others ← others.mapM fun disjunct => operand text budget disjunct inner
      pure (.disjunction first others)

/-- Reads a range as a sentence if it joins anything, else as a literal. -/
def operand (text : List Char) : Nat → (tokens context : List Token) → Reading Sentence
  | 0, _, _ => fail .budgetSpent
  | budget + 1, tokens, context => do
    let inner ← strip tokens
    if Grouping.isCompound inner then sentence text budget inner tokens
    else return .ofLiteral (← literal text inner context)

end

/-- The number of connectives in a range, at any depth. -/
def connectiveCount (tokens : List Token) : Nat :=
  tokens.countP fun token =>
    token.kind = .connective .and || token.kind = .connective .or

/-- The budget that a range of tokens is given. -/
def budget (tokens : List Token) : Nat := 3 * (connectiveCount tokens + 1)

/-- Runs a reading of all tokens of a text, once its parentheses are found to match. -/
def balanced (text : String) (read : List Token → Reading Sentence) : Reading Sentence :=
  let tokens := Token.scan text
  match Grouping.imbalance tokens with
  | some imbalance => fail (.unbalanced imbalance text)
  | none => read tokens

end Reading

/-- The most direct sentence that a text is. -/
def Sentence.read (text : String) : Reading Sentence :=
  Reading.balanced text fun tokens =>
    Reading.sentence text.toList (Reading.budget tokens) tokens tokens

end Clausal
