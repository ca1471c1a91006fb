import Clausal.Token

/-!
# Grouping by parentheses

The operations on a range of tokens that look at its parentheses: the first
imbalance, the removal of the pairs that enclose the whole range, and the cut at
the separators that stand outside every group.  A range may be any list of tokens;
only the first operation asks whether it is balanced.
-/

namespace Clausal

/-! ## Balance -/

/-- The parenthesis at fault in an unbalanced range. -/
inductive Imbalance where
  | unmatchedClosing (position : Nat)
  | unclosedOpening (position : Nat)
  deriving DecidableEq, Repr

namespace Grouping

/-- The imbalance of a range inside the open groups whose positions are given, the
innermost first. -/
def imbalanceWithin : List Nat → List Token → Option Imbalance
  | [], [] => none
  | innermost :: _, [] => some (.unclosedOpening innermost)
  | opened, token :: rest =>
    match token.kind with
    | .opening => imbalanceWithin (token.position :: opened) rest
    | .closing =>
      match opened with
      | [] => some (.unmatchedClosing token.position)
      | _ :: outer => imbalanceWithin outer rest
    | _ => imbalanceWithin opened rest

/-- The parenthesis at fault: the first closing one without a partner, else the last
opening one without a partner. -/
def imbalance (tokens : List Token) : Option Imbalance := imbalanceWithin [] tokens

/-! ## Depth -/

/-- How a token changes the number of open groups. -/
def weight (token : Token) : Int :=
  match token.kind with
  | .opening => 1
  | .closing => -1
  | _ => 0

/-- How many groups a range leaves open; negative where it closes more than it
opens. -/
def depth : List Token → Int
  | [] => 0
  | token :: rest => weight token + depth rest

/-- The number of groups open after a range that starts inside `opened` groups, or
nothing if at some token all of them are closed. -/
def openThroughout (opened : Nat) : List Token → Option Nat
  | [] => some opened
  | token :: rest =>
    match token.kind with
    | .opening => openThroughout (opened + 1) rest
    | .closing => if opened ≤ 1 then none else openThroughout (opened - 1) rest
    | _ => openThroughout opened rest

/-! ## Enclosing pairs -/

/-- How the two ends of a range relate. -/
inductive Enclosure where
  /-- The ends are no pair of parentheses that encloses the range. -/
  | bare
  /-- The ends are such a pair, around the range given. -/
  | pair (inner : List Token)
  /-- The ends are an opening and a closing parenthesis, and the group that the
  first opens is still open at the last, but they are not partners. -/
  | torn

/-- How the ends of a range relate. -/
def enclosure : List Token → Enclosure
  | [] => .bare
  | first :: rest =>
    if first.kind = .opening ∧ rest.getLast?.map Token.kind = some .closing then
      match openThroughout 1 rest.dropLast with
      | none => .bare
      | some 1 => .pair rest.dropLast
      | some _ => .torn
    else .bare

/-- A pair of ends is two tokens longer than what it encloses. -/
theorem length_of_enclosure_pair {tokens inner : List Token}
    (enclosed : enclosure tokens = .pair inner) : inner.length + 2 = tokens.length := by
  cases tokens with
  | nil => simp [enclosure] at enclosed
  | cons first rest =>
    by_cases ends : first.kind = .opening ∧ rest.getLast?.map Token.kind = some .closing
    · have nonempty : rest ≠ [] := by rintro rfl; simp at ends
      have positive := List.length_pos_iff.mpr nonempty
      simp only [enclosure, if_pos ends] at enclosed
      split at enclosed <;> simp at enclosed
      rw [← enclosed, List.length_dropLast, List.length_cons]
      omega
    · simp only [enclosure, if_neg ends] at enclosed
      simp at enclosed

/-- A range of tokens without the pairs of parentheses that enclose all of it, or
nothing if it is torn. -/
def strip? (tokens : List Token) : Option (List Token) :=
  match _enclosed : enclosure tokens with
  | .bare => some tokens
  | .pair inner => strip? inner
  | .torn => none
termination_by tokens.length
decreasing_by
  have := length_of_enclosure_pair _enclosed
  omega

/-! ## Cutting at separators -/

/-- The parts of a range between the separators outside every group, for a range that
starts inside `opened` groups.  There is always a first part. -/
def splitWithin (separates : Token.Kind → Bool) (opened : Int) :
    List Token → List Token × List (List Token)
  | [] => ([], [])
  | token :: rest =>
    if weight token = 0 ∧ opened = 0 ∧ separates token.kind then
      let parts := splitWithin separates opened rest
      ([], parts.1 :: parts.2)
    else
      let parts := splitWithin separates (opened + weight token) rest
      (token :: parts.1, parts.2)

/-- The parts of a range between the separators outside every group: the first, and
the others in order.  A parenthesis never separates. -/
def split (separates : Token.Kind → Bool) (tokens : List Token) :
    List Token × List (List Token) :=
  splitWithin separates 0 tokens

/-- The operands of a connective in a range: the first, and the others in order. -/
def operands (connective : Connective) (tokens : List Token) :
    List Token × List (List Token) :=
  split (· = .connective connective) tokens

/-- Whether a connective occurs in a range outside every group. -/
def joins (connective : Connective) (tokens : List Token) : Bool :=
  !(operands connective tokens).2.isEmpty

/-- Whether any connective occurs in a range outside every group. -/
def isCompound (tokens : List Token) : Bool :=
  joins .and tokens || joins .or tokens

end Grouping

end Clausal
