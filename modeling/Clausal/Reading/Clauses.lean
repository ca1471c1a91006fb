import Clausal.Reading.Sentence

/-!
# Reading clauses

The strict reading: a text is a conjunction of disjunctions of literals, with a
group at both levels even where it has one operand only.  Parentheses may enclose
the text, a clause, a literal or what a literal negates, but a connective inside a
literal's place is no literal.
-/

namespace Clausal

namespace Reading

/-- Reads a range as a disjunction of literals. -/
def clause (text : List Char) (tokens : List Token) : Reading Sentence := do
  let inner ← strip tokens
  let (first, others) := Grouping.operands .or inner
  let first ← disjunct inner first
  let others ← others.mapM (disjunct inner)
  pure (.disjunction first others)
where
  /-- Reads one operand of the clause as a literal. -/
  disjunct (inner operand : List Token) : Reading Sentence := do
    let stripped ← strip operand
    return .ofLiteral (← literal text stripped inner)

/-- Reads a range as a conjunction of clauses. -/
def clauses (text : List Char) (tokens : List Token) : Reading Sentence := do
  let inner ← strip tokens
  let (first, others) := Grouping.operands .and inner
  let first ← clause text first
  let others ← others.mapM (clause text)
  pure (.conjunction first others)

end Reading

/-- The conjunction of clauses that a text is. -/
def Sentence.readClauses (text : String) : Reading Sentence :=
  Reading.balanced text (Reading.clauses text.toList)

end Clausal
