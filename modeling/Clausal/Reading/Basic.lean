import Clausal.Letter
import Clausal.Reading.Error

/-!
# Readings

A reading of a text settles its literals one after the other and ends with a value
or with the first fault.  The literals settled before a fault are kept, because they
have been reported by then.  Readings are composed in sequence: what comes after a
fault is not read.

Every range of tokens that a reading quotes is a slice of the text, from its first
token to its last.
-/

namespace Clausal

/-- The outcome of reading: the literals settled on the way, in order, and the value
or the first fault. -/
structure Reading (Value : Type) where
  settled : List (Literal Letter)
  result : Except ReadError Value

namespace Reading

variable {Value Result : Type}

/-- The reading that settles nothing and has the given value. -/
protected def pure (value : Value) : Reading Value := ⟨[], .ok value⟩

/-- One reading and then, on the value of it, another. -/
protected def bind (reading : Reading Value) (next : Value → Reading Result) :
    Reading Result :=
  match reading.result with
  | .error fault => ⟨reading.settled, .error fault⟩
  | .ok value => ⟨reading.settled ++ (next value).settled, (next value).result⟩

instance : Monad Reading where
  pure := Reading.pure
  bind := Reading.bind

/-- The reading that ends with a fault at once. -/
def fail (fault : ReadError) : Reading Value := ⟨[], .error fault⟩

/-- The reading that settles one literal, which is its value. -/
def settle (literal : Literal Letter) : Reading (Literal Letter) := ⟨[literal], .ok literal⟩

@[ext] protected theorem ext {left right : Reading Value}
    (sameSettled : left.settled = right.settled) (sameResult : left.result = right.result) :
    left = right := by
  cases left; cases right; simp_all

@[simp] theorem settled_pure (value : Value) : (pure value : Reading Value).settled = [] := rfl

@[simp] theorem result_pure (value : Value) :
    (pure value : Reading Value).result = .ok value := rfl

@[simp] theorem result_fail (fault : ReadError) :
    (fail fault : Reading Value).result = .error fault := rfl

theorem bind_of_ok {reading : Reading Value} {value : Value} (success : reading.result = .ok value)
    (next : Value → Reading Result) :
    reading >>= next = ⟨reading.settled ++ (next value).settled, (next value).result⟩ := by
  change Reading.bind reading next = _
  simp [Reading.bind, success]

theorem bind_of_error {reading : Reading Value} {fault : ReadError}
    (failure : reading.result = .error fault) (next : Value → Reading Result) :
    reading >>= next = ⟨reading.settled, .error fault⟩ := by
  change Reading.bind reading next = _
  simp [Reading.bind, failure]

private theorem id_map_reading (reading : Reading Value) : id <$> reading = reading := by
  change Reading.bind reading Reading.pure = reading
  cases reading with | mk settled result =>
  cases result <;> simp [Reading.bind, Reading.pure]

private theorem pure_bind_reading (value : Value) (next : Value → Reading Result) :
    pure value >>= next = next value := by
  change Reading.bind (Reading.pure value) next = next value
  simp [Reading.bind, Reading.pure]

private theorem bind_assoc_reading {Final : Type} (reading : Reading Value)
    (next : Value → Reading Result) (last : Result → Reading Final) :
    reading >>= next >>= last = reading >>= fun value => next value >>= last := by
  change Reading.bind (Reading.bind reading next) last =
    Reading.bind reading fun value => Reading.bind (next value) last
  cases reading with | mk settled result =>
  cases result with
  | error fault => simp [Reading.bind]
  | ok value =>
    simp only [Reading.bind]
    cases (next value).result <;> simp

instance : LawfulMonad Reading :=
  LawfulMonad.mk' Reading id_map_reading pure_bind_reading bind_assoc_reading

/-! ## Quoting the text -/

/-- The part of a text from the first token of a range to the last. -/
def slice (text : List Char) (tokens : List Token) : List Char :=
  match tokens.head?, tokens.getLast? with
  | some first, some last =>
    (text.drop first.position).take (last.position + 1 - first.position)
  | _, _ => []

/-- The part of a text that a range of tokens covers. -/
def fragment (text : List Char) (tokens : List Token) : String :=
  String.ofList (slice text tokens)

/-! ## Literals -/

/-- The range without the pairs of parentheses that enclose it. -/
def strip (tokens : List Token) : Reading (List Token) :=
  match Grouping.strip? tokens with
  | some inner => pure inner
  | none => fail .tornGroup

/-- Reads a range as the variable of a literal. -/
def atom (text : List Char) (negated : Bool) (tokens : List Token) :
    Reading (Literal Letter) :=
  match tokens with
  | [token] =>
    match token.letter? with
    | some letter => settle ⟨negated, letter⟩
    | none => fail (.unexpectedLiteral (fragment text tokens))
  | _ => fail (.unexpectedLiteral (fragment text tokens))

/-- Reads a range as a literal.  An empty range is reported in its context. -/
def literal (text : List Char) (tokens context : List Token) : Reading (Literal Letter) :=
  match tokens with
  | [] => fail (.missingOperand (fragment text context))
  | first :: rest =>
    if first.kind = .not then do
      let negated ← strip rest
      if negated.isEmpty then fail (.missingNegated (fragment text tokens))
      else atom text true negated
    else atom text false tokens

end Reading

end Clausal
