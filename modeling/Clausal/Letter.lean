import Clausal.Text.CharacterClass
import Clausal.Token

/-!
# Letters and literals

The names of variables: any single letter of the Unicode standard but the one that
is a connective.  A literal is a name that is negated or not; names are letters
where a sentence is read, and any text where a sentence is drawn at random.
-/

namespace Clausal

/-- A name that a variable may have. -/
structure Letter where
  char : Char
  isLetter : Text.isLetter char = true
  notConnective : char ≠ Connective.or.symbol
  deriving DecidableEq

/-- The letter that a token stands for, if it stands for a variable. -/
def Token.letter? (token : Token) : Option Letter :=
  if ascii : token.symbol.isAlpha = true ∧ token.symbol ≠ Connective.or.symbol then
    some ⟨token.symbol, Text.isLetter_of_isAlpha ascii.1, ascii.2⟩
  else none

/-- A name, negated or not. -/
structure Literal (Name : Type) where
  negated : Bool
  name : Name
  deriving DecidableEq, Repr

namespace Literal

variable {Name : Type}

/-- The literal under another kind of name. -/
def map {Other : Type} (rename : Name → Other) (literal : Literal Name) : Literal Other :=
  ⟨literal.negated, rename literal.name⟩

/-- The text of a literal whose name is a text. -/
def text (literal : Literal String) : String :=
  if literal.negated then negationSymbol.toString ++ literal.name else literal.name

end Literal

end Clausal
