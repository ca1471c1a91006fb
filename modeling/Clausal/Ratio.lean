import Clausal.Decimal.Numeral
import Clausal.Text.Quoted

/-!
# Ratios

The ratio of clauses to letters: how it is read from a text, and the number of clauses
that it asks for.
-/

namespace Clausal

namespace Ratio

/-- Why a text is no ratio. -/
inductive Fault where
  | notNumber (text : String)
  | notFinite (text : String)
  deriving DecidableEq, Repr

/-- The wording of a fault. -/
def Fault.message : Fault → String
  | notNumber text => "Invalid clause/variable ratio: " ++ Text.quoted text
  | notFinite text => "Clause/variable ratio must be finite: " ++ Text.quoted text

/-- The ratio that a text names. -/
def read (text : String) : Except Fault Binary64 :=
  match Numeral.real? text with
  | none => .error (.notNumber text)
  | some number => if number.isFinite then .ok number else .error (.notFinite text)

/-- The number of letters that a ratio refers to where none is given. -/
def usualLetters : Nat := 26

/-- The number of clauses for a ratio: the product with the number of letters, a half
rounded up, and one at least.  The half is added in double precision. -/
def clauseCount (ratio : Binary64) (letters : Int) : Except Binary64.Fault Int := do
  let letters ← Binary64.ofInt letters
  let count ← (ratio * letters + .half).floor
  return max 1 count

end Ratio

end Clausal
