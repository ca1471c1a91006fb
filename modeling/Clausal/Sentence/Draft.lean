import Clausal.Sentence.Outline

/-!
# Drafts

A draft is a tree that need not be a sentence: a name may be any text, and a group
may be empty.  It is checked from the leaves up and from left to right, and the first
fault in that order is reported.
-/

namespace Clausal

/-- A tree that is yet to be checked. -/
inductive Draft where
  | variable (name : String)
  | negation (operand : Draft)
  | group (connective : Connective) (operands : List Draft)
  deriving Inhabited

namespace Draft

/-- Why a draft is no sentence. -/
inductive Fault where
  | noLetter (name : String)
  | reserved (name : String)
  | noOperand (connective : Connective)
  deriving DecidableEq, Repr

/-- The wording of a fault. -/
def Fault.message : Fault → String
  | noLetter name => "Variable name must be a single letter: " ++ Text.quoted name
  | reserved name => "'" ++ name ++ "' is a reserved operator symbol"
  | noOperand connective => connective.groupName ++ " needs at least one operand"

/-- The letter that a name is. -/
def letter (name : String) : Except Fault Letter :=
  match name.toList with
  | [c] =>
    if isLetter : Text.isLetter c = true then
      if notConnective : c ≠ Connective.or.symbol then .ok ⟨c, isLetter, notConnective⟩
      else .error (.reserved name)
    else .error (.noLetter name)
  | _ => .error (.noLetter name)

mutual

/-- The sentence that a draft is. -/
def check : Draft → Except Fault Sentence
  | .variable name => return .variable (← letter name)
  | .negation operand => return .negation (← operand.check)
  | .group connective operands => do
    match ← checkList operands with
    | [] => throw (.noOperand connective)
    | first :: others => return .group connective first others

/-- The sentences that a list of drafts are. -/
def checkList : List Draft → Except Fault (List Sentence)
  | [] => return []
  | draft :: rest => do
    let sentence ← draft.check
    let sentences ← checkList rest
    return sentence :: sentences

end

end Draft

end Clausal
