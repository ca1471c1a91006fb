import Clausal.Sentence.Basic

/-!
# The text of a sentence

A group that is an operand stands in parentheses, a group that is the whole sentence
does not; so a connective outside parentheses belongs to the whole sentence.  A
conjunction may also be laid out with one conjunct a line.
-/

namespace Clausal

/-- How the operands of a whole sentence are laid out. -/
inductive Layout where
  /-- All in one line. -/
  | inline
  /-- The conjuncts of a conjunction each in a line of its own, else all in one. -/
  | stacked
  deriving DecidableEq, Repr

/-- What stands between two operands of a group. -/
def Connective.separator (connective : Connective) : List Char := [' ', connective.symbol, ' ']

/-- What stands between two conjuncts in lines of their own. -/
def lineSeparator : List Char := [' ', Connective.and.symbol, '\n']

namespace Sentence

/-- The text of a sentence as an operand: a group stands in parentheses. -/
def asOperand (sentence : Sentence) (text : List Char) : List Char :=
  if sentence.isGroup then '(' :: (text ++ [')']) else text

mutual

/-- The text of a sentence in one line. -/
def render : Sentence → List Char
  | .variable name => [name.char]
  | .negation operand => negationSymbol :: operand.asOperand operand.render
  | .group connective first others =>
    first.asOperand first.render ++ renderOthers connective others

/-- The text of the operands of a group after the first, each after a separator. -/
def renderOthers (connective : Connective) : List Sentence → List Char
  | [] => []
  | sentence :: rest =>
    connective.separator ++ sentence.asOperand sentence.render ++ renderOthers connective rest

end

/-- The text of a sentence as an operand of another. -/
def renderOperand (sentence : Sentence) : List Char := sentence.asOperand sentence.render

/-- The text of a sentence with one conjunct a line. -/
def renderStacked : Sentence → List Char
  | .group .and first others =>
    first.renderOperand ++ others.flatMap fun conjunct => lineSeparator ++ conjunct.renderOperand
  | sentence => sentence.render

/-- The text of a sentence. -/
def format (sentence : Sentence) (layout : Layout) : String :=
  match layout with
  | .inline => String.ofList sentence.render
  | .stacked => String.ofList sentence.renderStacked

theorem renderOthers_eq_flatMap (connective : Connective) (others : List Sentence) :
    renderOthers connective others =
      others.flatMap fun sentence => connective.separator ++ sentence.renderOperand := by
  induction others with
  | nil => simp [renderOthers]
  | cons sentence rest ih => simp [renderOthers, renderOperand, ih]

end Sentence

end Clausal
