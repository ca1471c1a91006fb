import Clausal.Grouping

/-!
# Why a text is no sentence

A reading fails at its first fault.  A fault quotes the part of the text that it is
about: the operand itself if it is malformed, the range that should hold it if it is
missing, the whole text if its parentheses do not match.
-/

namespace Clausal

/-- The reason why a text is no sentence. -/
inductive ReadError where
  /-- An operand of the quoted range is empty. -/
  | missingOperand (context : String)
  /-- The quoted negation negates nothing. -/
  | missingNegated (negation : String)
  /-- The quoted operand is no literal. -/
  | unexpectedLiteral (operand : String)
  /-- A parenthesis of the quoted text has no partner. -/
  | unbalanced (imbalance : Imbalance) (text : String)
  /-- The ends of a range are parentheses but not partners, although the group that
  the first opens is open up to the last.  No balanced text has such a range. -/
  | tornGroup
  /-- The budget of nested readings is used up.  The budget that a text is given
  suffices for every text. -/
  | budgetSpent
  deriving DecidableEq, Repr

/-- What went wrong with a parenthesis. -/
def Imbalance.message : Imbalance → String
  | .unmatchedClosing position =>
    "Parenthesis mismatch: unmatched ')' at position " ++ toString position
  | .unclosedOpening position =>
    "Parenthesis mismatch: unclosed '(' at position " ++ toString position

namespace ReadError

/-- The families of faults that a caller tells apart. -/
inductive Kind where
  | missingVariable
  | unexpectedLiteral
  | parenthesisMismatch
  | unfinished
  deriving DecidableEq, Repr

/-- The family of a fault. -/
def kind : ReadError → Kind
  | missingOperand _ => .missingVariable
  | missingNegated _ => .missingVariable
  | unexpectedLiteral _ => .unexpectedLiteral
  | unbalanced .. => .parenthesisMismatch
  | tornGroup => .parenthesisMismatch
  | budgetSpent => .unfinished

/-- The part of the text that a fault quotes, if any. -/
def fragment? : ReadError → Option String
  | missingOperand context => some context
  | missingNegated negation => some negation
  | unexpectedLiteral operand => some operand
  | unbalanced _ text => some text
  | tornGroup => none
  | budgetSpent => none

/-- The wording of a fault. -/
def message : ReadError → String
  | missingOperand context => "Parse Error: missing variable in '" ++ context ++ "'"
  | missingNegated negation => "Parse Error: missing variable after '~' in '" ++ negation ++ "'"
  | unexpectedLiteral operand => "Parse Error: unexpected literal '" ++ operand ++ "'"
  | unbalanced imbalance _ => imbalance.message
  | tornGroup => "Parenthesis mismatch inside group"
  | budgetSpent => "Parse Error: sentence nested too deeply"

end ReadError

end Clausal
