import Clausal.Binary64.Basic
import Clausal.Text.CharacterClass

/-!
# Numerals

The texts that name a number.  Blanks around a numeral are ignored, digits may be of
any script, and a single underscore may stand between two digits.  A real numeral has
a fraction, an exponent, both or neither, or is one of the words for infinity and for
an undefined value, in letters of either case.  An integer numeral is a sign and
digits, of which there is a greatest admitted number.
-/

namespace Clausal

namespace Numeral

/-- The digits at the head of a text, each after the first perhaps with an underscore
before it, and what follows them. -/
def digitsWithin : Bool → List Char → List Nat × List Char
  | _, [] => ([], [])
  | afterDigit, c :: rest =>
    match Text.digitValue? c with
    | some value =>
      let (more, rest) := digitsWithin true rest
      (value :: more, rest)
    | none =>
      if afterDigit ∧ c = '_' then
        match digitsWithin false rest with
        | ([], _) => ([], c :: rest)
        | found => found
      else ([], c :: rest)

/-- The digits at the head of a text and what follows them. -/
def digits (text : List Char) : List Nat × List Char := digitsWithin false text

/-- The sign at the head of a text, and what follows it. -/
def sign : List Char → Bool × List Char
  | '-' :: rest => (true, rest)
  | '+' :: rest => (false, rest)
  | text => (false, text)

/-- The number that a list of digits is. -/
def value (digits : List Nat) : Nat := digits.foldl (fun n digit => 10 * n + digit) 0

/-! ## Integers -/

/-- The greatest number of digits of an integer numeral. -/
def integerDigitLimit : Nat := 4300

/-- The integer that a text names. -/
def integer? (text : String) : Option Int :=
  let (negative, unsigned) := sign (Text.trimBlanks text.toList)
  match digits unsigned with
  | ([], _) => none
  | (found, []) =>
    if integerDigitLimit < found.length then none
    else some (if negative then -(value found : Int) else value found)
  | _ => none

/-! ## Real numbers -/

/-- The number nearest to a decimal.  What is far beyond the range of the type is not
computed. -/
def nearest (negative : Bool) (digits : List Nat) (exponent : Int) : Binary64 :=
  let significant := digits.dropWhile (· = 0)
  let places := significant.length + exponent
  if significant.isEmpty ∨ places < -400 then .ofQuotient negative 0 1
  else if 400 < places then .infinite negative
  else .ofQuotient negative (value significant * Nat.pow 10 exponent.toNat * Binary64.unitsPerOne)
    (Nat.pow 10 (-exponent).toNat)

/-- The exponent at the head of a text and what follows it; a text that does not begin
with the mark of an exponent has none. -/
def exponent? : List Char → Option (Int × List Char)
  | [] => some (0, [])
  | c :: rest =>
    if c = 'e' ∨ c = 'E' then
      let (negative, unsigned) := sign rest
      match digits unsigned with
      | ([], _) => none
      | (found, rest) => some (if negative then -(value found : Int) else value found, rest)
    else some (0, c :: rest)

/-- The number that a text of digits, point and exponent names. -/
def decimal? (negative : Bool) (text : List Char) : Option Binary64 :=
  let (whole, rest) := digits text
  let (fraction, rest) := match rest with
    | '.' :: rest => digits rest
    | _ => ([], rest)
  if whole.isEmpty ∧ fraction.isEmpty then none
  else
    match exponent? rest with
    | some (exponent, []) =>
      some (nearest negative (whole ++ fraction) (exponent - fraction.length))
    | _ => none

/-- The real number that a text names. -/
def real? (text : String) : Option Binary64 :=
  let (negative, unsigned) := sign (Text.trimBlanks text.toList)
  let word := String.ofList (unsigned.map Char.toLower)
  if word = "inf" ∨ word = "infinity" then some (.infinite negative)
  else if word = "nan" then some .nan
  else decimal? negative unsigned

end Numeral

end Clausal
