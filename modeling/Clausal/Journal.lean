import Clausal.Sentence.Outline

/-!
# The journal

What the library reports about its work: records of four levels.  A journal writes a
record down only if its level reaches the journal's own; nothing else depends on that
level.
-/

namespace Clausal

namespace Journal

/-- How serious a record is, in increasing order. -/
inductive Level where
  | debug
  | info
  | warning
  | error
  deriving DecidableEq, Repr

/-- The place of a level in the order. -/
def Level.rank : Level → Nat
  | debug => 0
  | info => 1
  | warning => 2
  | error => 3

instance : LE Level := ⟨fun lower upper => lower.rank ≤ upper.rank⟩

instance (lower upper : Level) : Decidable (lower ≤ upper) :=
  inferInstanceAs (Decidable (lower.rank ≤ upper.rank))

/-- A message and how serious it is. -/
structure Record where
  level : Level
  message : String
  deriving DecidableEq, Repr

namespace Record

/-- The line of a record.  The details and the failures are marked. -/
def line (record : Record) : String :=
  match record.level with
  | .debug => "[DEBUG] " ++ record.message
  | .info => record.message
  | .warning => record.message
  | .error => "[ERROR] " ++ record.message

/-- A record of a detail. -/
def detail (message : String) : Record := ⟨.debug, message⟩

/-- As much of a text as a record shows: all of up to sixty characters, else the first
fifty-seven and an ellipsis. -/
def preview (source : String) : String :=
  if source.length ≤ 60 then source else String.ofList (source.toList.take 57) ++ "..."

/-- A text was read as a sentence of the named kind. -/
def sentenceRead (kindName source : String) : Record :=
  detail ("Parsed " ++ Text.quoted (preview source) ++ " into " ++ kindName)

/-- A literal was settled while a text was read. -/
def literalSettled (literal : Literal Letter) : Record :=
  detail ("Literal " ++ (literal.map fun letter => letter.char.toString).text ++ " resolved")

/-- A text holds a symbol outside the alphabet. -/
def straySymbol (token : Token) : Record :=
  detail ("Illegal character '" ++ token.symbol.toString ++ "' at position " ++
    toString token.position)

/-- Clauses were drawn at random. -/
def instanceDrawn (count width letters : Int) : Record :=
  detail ("Generated " ++ toString count ++ " clauses of width " ++ toString width ++ " over " ++
    toString letters ++ " variables")

/-- A file is about to be read. -/
def fileOpened (path : String) : Record := detail ("Reading sentence file: " ++ path)

/-- A file was read whole. -/
def fileRead (path : String) (size : Int) : Record :=
  detail ("Read " ++ toString size ++ " characters from " ++ path)

/-- A file was written whole. -/
def fileWritten (path : String) (size : Int) : Record :=
  detail ("Wrote " ++ toString size ++ " characters to " ++ path)

end Record

end Journal

/-- The records written down so far, in order, and the level that a record must reach
to be among them. -/
structure Journal where
  level : Journal.Level
  written : List Journal.Record

namespace Journal

/-- The journal after a record is offered to it. -/
def post (journal : Journal) (record : Record) : Journal :=
  if journal.level ≤ record.level then { journal with written := journal.written ++ [record] }
  else journal

/-- The journal after some records are offered to it in order. -/
def postAll (journal : Journal) (records : List Record) : Journal :=
  records.foldl post journal

/-- The level asked for on a command line: all details if they are asked for, else the
progress if that is, else warnings only. -/
def Level.requested (verbose details : Bool) : Level :=
  if details then .debug else if verbose then .info else .warning

@[simp] theorem level_post (journal : Journal) (record : Record) :
    (journal.post record).level = journal.level := by
  unfold post
  split <;> rfl

@[simp] theorem level_postAll (journal : Journal) (records : List Record) :
    (journal.postAll records).level = journal.level := by
  induction records generalizing journal with
  | nil => rfl
  | cons record rest ih => exact (ih (journal.post record)).trans (level_post journal record)

theorem written_postAll (journal : Journal) (records : List Record) :
    (journal.postAll records).written =
      journal.written ++ records.filter fun record => journal.level ≤ record.level := by
  induction records generalizing journal with
  | nil => simp [postAll]
  | cons record rest ih =>
    have step : journal.postAll (record :: rest) = (journal.post record).postAll rest := rfl
    rw [step, ih, level_post]
    by_cases reached : journal.level ≤ record.level <;> simp [post, reached]

end Journal

end Clausal
