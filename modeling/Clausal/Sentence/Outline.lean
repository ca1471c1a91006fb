import Clausal.Sentence.Basic
import Clausal.Text.Quoted

/-!
# The outline of a sentence

The outline spells out the structure of a sentence: the kind of every node with the
name of what it holds.  Operands are listed in parentheses, and a list of one ends
with a comma.
-/

namespace Clausal

/-- The name of the groups under a connective. -/
def Connective.groupName : Connective → String
  | .or => "Disjunction"
  | .and => "Conjunction"

namespace Sentence

/-- The name of a sentence's outermost node. -/
def kindName : Sentence → String
  | .variable _ => "Variable"
  | .negation _ => "Negation"
  | .group connective .. => connective.groupName

mutual

/-- The spelled-out structure of a sentence. -/
def outline : Sentence → String
  | .variable name => "Variable(name=" ++ Text.quoted (String.singleton name.char) ++ ")"
  | .negation operand => "Negation(operand=" ++ operand.outline ++ ")"
  | .group connective first others =>
    connective.groupName ++ "(operands=(" ++ first.outline ++
      (if others.isEmpty then "," else outlineOthers others) ++ "))"

/-- The outlines of the operands after the first. -/
def outlineOthers : List Sentence → String
  | [] => ""
  | sentence :: rest => ", " ++ sentence.outline ++ outlineOthers rest

end

end Sentence

end Clausal
