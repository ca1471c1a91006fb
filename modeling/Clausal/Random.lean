/-!
# Random draws

A source answers two questions, a fair coin and a number below a bound, and each
answer leaves it in a new state.  What is drawn from a source is a function of its
state, so a seed reproduces it.  Nothing is assumed about the answers: a source may
give any sequence of them.

The twister is the source that a seed makes, a linear recurrence of 624 words of 32 bits
with period `2 ^ 19937 - 1`, known as MT19937.  The words form a ring with a cursor; an
output renews the word at the cursor from three words of the ring, moves the cursor on
and returns the new word with its bits mixed.  A seed of any length fills the ring.
-/

namespace Clausal

/-- A state that random draws can be taken from. -/
class Source (State : Type) where
  /-- A coin, and the state after it. -/
  coin : State → Bool × State
  /-- A number below a positive bound, and the state after it. -/
  below : (bound : Nat) → 0 < bound → State → Fin bound × State

/-! ## The twister -/

/-- A ring of words and the place of the next output. -/
structure Twister where
  words : Vector UInt32 624
  cursor : Nat

namespace Twister

/-- The word at a place of the ring. -/
def word (words : Vector UInt32 624) (place : Nat) : UInt32 :=
  words.get ⟨place % 624, Nat.mod_lt place (by decide)⟩

/-- The ring with the word at a place replaced. -/
def put (words : Vector UInt32 624) (place : Nat) (value : UInt32) : Vector UInt32 624 :=
  words.set (place % 624) value (Nat.mod_lt place (by decide))

/-! ## Output -/

/-- The word that renews a place: the highest bit of the old word with the other bits of
the next one, shifted, and the word 397 places on. -/
def renewed (words : Vector UInt32 624) (place : Nat) : UInt32 :=
  let mixed := (word words place &&& 0x80000000) ||| (word words (place + 1) &&& 0x7fffffff)
  let shifted := mixed >>> 1
  word words (place + 397) ^^^ (if mixed &&& 1 = 1 then shifted ^^^ 0x9908b0df else shifted)

/-- The bits of a word mixed for output. -/
def temper (y : UInt32) : UInt32 :=
  let y := y ^^^ (y >>> 11)
  let y := y ^^^ ((y <<< 7) &&& 0x9d2c5680)
  let y := y ^^^ ((y <<< 15) &&& 0xefc60000)
  y ^^^ (y >>> 18)

/-- The next output. -/
def next (twister : Twister) : UInt32 × Twister :=
  let fresh := renewed twister.words twister.cursor
  (temper fresh, ⟨put twister.words twister.cursor fresh, (twister.cursor + 1) % 624⟩)

/-! ## Seeding -/

/-- The ring that a single word fills: each word is computed from the one before. -/
def filled (seed : UInt32) : Vector UInt32 624 :=
  Nat.fold 623 (fun before _ words =>
    let last := word words before
    put words (before + 1) ((last ^^^ (last >>> 30)) * 1812433253 + (before + 1).toUInt32))
    (put (Vector.replicate 624 0) 0 seed)

/-- A walk over the ring from a place on, in the given number of steps.  Each step renews
a word from the place, the number of steps left, the old word and the word before it.
The first place is passed over after it has taken over the last word. -/
def walk (renew : (place left : Nat) → (old before : UInt32) → UInt32) :
    Nat → Nat × Vector UInt32 624 → Nat × Vector UInt32 624
  | 0, state => state
  | left + 1, (place, words) =>
    let value := renew place left (word words place) (word words (place - 1))
    let words := put words place value
    if place + 1 < 624 then walk renew left (place + 1, words)
    else walk renew left (1, put words 0 (word words 623))

/-- The words of a natural number, the least significant first; zero has one. -/
def keyWords (n : Nat) : List UInt32 :=
  if n < UInt32.size then [n.toUInt32]
  else (n % UInt32.size).toUInt32 :: keyWords (n / UInt32.size)
termination_by n
decreasing_by simp only [UInt32.size] at *; omega

/-- The twister that a key of one word or more seeds. -/
def ofKey (key : Array UInt32) : Twister :=
  let steps := max 624 key.size
  let absorbed := walk (fun _ left old before =>
      let index := (steps - 1 - left) % key.size
      (old ^^^ ((before ^^^ (before >>> 30)) * 1664525)) + key.getD index 0 + index.toUInt32)
    steps (1, filled 19650218)
  let spread := walk (fun place _ old before =>
      (old ^^^ ((before ^^^ (before >>> 30)) * 1566083941)) - place.toUInt32)
    623 absorbed
  ⟨put spread.2 0 0x80000000, 0⟩

/-- The twister that an integer seeds; its sign does not matter. -/
def ofSeed (seed : Int) : Twister := ofKey (keyWords seed.natAbs).toArray

/-! ## Draws -/

/-- A number below `2 ^ 53`, from the leading 27 bits of one output and the leading 26 of
the next. -/
def fraction (twister : Twister) : Nat × Twister :=
  let (high, twister) := twister.next
  let (low, twister) := twister.next
  ((high >>> 5).toNat * Nat.pow 2 26 + (low >>> 6).toNat, twister)

/-- The number of binary digits of a positive number. -/
def width (n : Nat) : Nat := n.log2 + 1

/-- The number of states of the ring. -/
def stateCount : Nat := 624 * Nat.pow UInt32.size 624

/-- A number below a bound: outputs are taken, each cut to its leading bits, as many as
the bound has, until one is below the bound.  After as many attempts as there are states
every state on the way would come again, so no attempt would succeed. -/
def attempt (bound : Nat) (positive : 0 < bound) : Nat → Twister → Fin bound × Twister
  | 0, twister => (⟨0, positive⟩, twister)
  | attempts + 1, twister =>
    let (output, twister) := twister.next
    let candidate := (output >>> (32 - width bound).toUInt32).toNat
    if below : candidate < bound then (⟨candidate, below⟩, twister)
    else attempt bound positive attempts twister

/-- The coin shows whether a fraction is below one half. -/
instance : Source Twister where
  coin twister := (decide (twister.fraction.1 < Nat.pow 2 52), twister.fraction.2)
  below bound positive twister := attempt bound positive stateCount twister

end Twister

end Clausal
