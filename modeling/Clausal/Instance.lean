import Clausal.Letter
import Clausal.Random

/-!
# Random instances

An instance is a list of clauses, each a list of literals, drawn from a source of
randomness: for each literal first the sign, then the name.  Names are drawn from an
alphabet, which may hold any texts and any of them more than once.  The text of an
instance is a sentence of the form `(L v L v L) ^ (L v L v L)`.
-/

namespace Clausal

namespace Instance

/-- Why no instance is drawn. -/
inductive Fault where
  /-- The count is no integer; it is quoted as it was given. -/
  | countNotInteger (shown : String)
  | countNotPositive (count : Int)
  | widthNotPositive (width : Int)
  | noAlphabet
  /-- A name was to be drawn from an empty alphabet. -/
  | nothingToChoose
  deriving DecidableEq, Repr

/-- The wording of a fault. -/
def Fault.message : Fault → String
  | countNotInteger shown => "clause_count must be an integer, got " ++ shown
  | countNotPositive count => "clause_count must be positive, got " ++ toString count
  | widthNotPositive width => "clause_width must be positive, got " ++ toString width
  | noAlphabet => "alphabet must contain at least one variable"
  | nothingToChoose => "Cannot choose from an empty sequence"

/-- The number of variables of the usual alphabet. -/
def usualAlphabet : List String := "ABCDEFGHIJKLMNOPQRSTUVWXYZ".toList.map Char.toString

/-- The number of literals of a clause where none is given. -/
def usualWidth : Nat := 3

/-! ## Drawing -/

/-- A draw: from a state of the source to a value, or a fault, and the state after. -/
abbrev Draw (State Value : Type) := ExceptT Fault (StateM State) Value

variable {State : Type} [Source State]

/-- Draws a coin. -/
def coin : Draw State Bool := fun state => ((Source.coin state).map .ok id)

/-- Draws a member of a list. -/
def choose {Value : Type} (values : List Value) : Draw State Value :=
  if nonempty : 0 < values.length then fun state =>
    let (place, state) := Source.below values.length nonempty state
    (.ok values[place], state)
  else throw .nothingToChoose

/-- Draws a literal: first whether it is negated, then its name. -/
def literal (alphabet : List String) : Draw State (Literal String) := do
  let negated ← coin
  let name ← choose alphabet
  return ⟨negated, name⟩

/-- Draws a number of values one after the other. -/
def times {Value : Type} (draw : Draw State Value) : Nat → Draw State (List Value)
  | 0 => return []
  | count + 1 => do
    let value ← draw
    let values ← times draw count
    return value :: values

/-- Draws a clause of the given width. -/
def clause (alphabet : List String) (width : Nat) : Draw State (List (Literal String)) :=
  times (literal alphabet) width

/-- Draws clauses of the given width. -/
def clauses (alphabet : List String) (width count : Nat) :
    Draw State (List (List (Literal String))) :=
  times (clause alphabet width) count

/-- Draws an instance, if there is to be a clause and a literal in it and a name to draw.
Nothing is drawn otherwise. -/
def draw (count : Int) (alphabet : List String) (width : Int) :
    Draw State (List (List (Literal String))) :=
  if count < 1 then throw (.countNotPositive count)
  else if width < 1 then throw (.widthNotPositive width)
  else if alphabet.isEmpty then throw .noAlphabet
  else clauses alphabet width.toNat count.toNat

/-! ## Text -/

/-- The text of a clause. -/
def clauseText (clause : List (Literal String)) : String :=
  "(" ++ " v ".intercalate (clause.map Literal.text) ++ ")"

/-- The text of an instance. -/
def text (clauses : List (List (Literal String))) : String :=
  " ^ ".intercalate (clauses.map clauseText)

end Instance

end Clausal
