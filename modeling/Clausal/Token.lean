/-!
# Tokens

Every character of a sentence that is not blank is a token of its own.  A token
keeps its symbol and its position, counted in characters of the whole text; what
it stands for is decided by the symbol alone.  A symbol outside the alphabet is
not refused here: it is a stray token, so that the reader can quote the whole
operand it spoils.
-/

namespace Clausal

/-- The symbol of a negation. -/
def negationSymbol : Char := '~'

/-- The two connectives of a sentence. -/
inductive Connective where
  | or
  | and
  deriving DecidableEq, Repr

/-- The symbol of a connective. -/
def Connective.symbol : Connective → Char
  | .or => 'v'
  | .and => '^'

/-- A symbol of a text and its position. -/
structure Token where
  symbol : Char
  position : Nat
  deriving DecidableEq, Repr

namespace Token

/-- What a token stands for. -/
inductive Kind where
  | variable
  | not
  | connective (connective : Connective)
  | opening
  | closing
  | stray
  deriving DecidableEq, Repr

/-- What a symbol stands for.  The letter `v` is taken by a connective; every other
ASCII letter is a variable. -/
def Kind.ofSymbol (c : Char) : Kind :=
  if c = negationSymbol then .not
  else if c = Connective.or.symbol then .connective .or
  else if c = Connective.and.symbol then .connective .and
  else if c = '(' then .opening
  else if c = ')' then .closing
  else if c.isAlpha then .variable
  else .stray

/-- What a token stands for. -/
def kind (token : Token) : Kind := Kind.ofSymbol token.symbol

/-- The tokens of a text whose first character has the given position. -/
def scanFrom (start : Nat) (text : List Char) : List Token :=
  (text.zipIdx start).filterMap fun (c, position) =>
    if c.isWhitespace then none else some ⟨c, position⟩

/-- The tokens of a text. -/
def scan (text : String) : List Token := scanFrom 0 text.toList

@[simp] theorem scanFrom_nil (start : Nat) : scanFrom start [] = [] := rfl

theorem scanFrom_cons (start : Nat) (c : Char) (rest : List Char) :
    scanFrom start (c :: rest) =
      if c.isWhitespace then scanFrom (start + 1) rest
      else ⟨c, start⟩ :: scanFrom (start + 1) rest := by
  by_cases white : c.isWhitespace <;> simp [scanFrom, List.zipIdx_cons, white]

end Token

end Clausal
