import Clausal.Failure
import Clausal.Journal
import Clausal.Reading.Clauses

/-!
# Reports of readings

Both ways of reading a text under one name, and what the journal is told about a reading:
that it begins, the symbols outside the alphabet, the literals that are settled, and how
it ends.
-/

namespace Clausal

namespace Reading

/-- How a text is read. -/
inductive Mode where
  /-- As the most direct sentence. -/
  | direct
  /-- As a conjunction of clauses. -/
  | clausal
  deriving DecidableEq, Repr

/-- The reading of a text. -/
def Mode.read : Mode → String → Reading Sentence
  | direct => Sentence.read
  | clausal => Sentence.readClauses

end Reading

/-- The name of a family of faults. -/
def ReadError.Kind.name : ReadError.Kind → String
  | .missingVariable => "MissingVariable"
  | .unexpectedLiteral => "UnexpectedLiteral"
  | .parenthesisMismatch => "ParenthesisMismatch"
  | .unfinished => "ParseError"

namespace Journal.Record

/-- A value is about to be read. -/
def readingStarted (mode : Reading.Mode) (source : Datum) : Record :=
  let what := match mode with
    | .direct => "sentence"
    | .clausal => "CNF sentence"
  detail ("Parsing " ++ what ++ ": " ++ source.shown)

/-- A reading came to its end. -/
def readingEnded (text : String) (reading : Reading Sentence) : Record :=
  match reading.result with
  | .ok sentence => sentenceRead sentence.kindName text
  | .error fault =>
    detail (fault.kind.name ++ " encountered during parsing: " ++ fault.message)

/-- A value that is no text was refused. -/
def sourceRefused (source : Datum) : Record :=
  detail ("Unexpected parsing error: TypeError: " ++ Failure.notTextMessage source)

/-- The symbols outside the alphabet. -/
def straySymbols (tokens : List Token) : List Record :=
  (tokens.filter fun token => token.kind = .stray).map straySymbol

/-- All records of a reading of a text. -/
def ofReading (mode : Reading.Mode) (text : String) (reading : Reading Sentence) : List Record :=
  readingStarted mode (.text text) :: (straySymbols (Token.scan text) ++
    reading.settled.map literalSettled ++ [readingEnded text reading])

end Journal.Record

/-- What reading a value gives, and the records of it. -/
def Reading.reported (mode : Reading.Mode) (source : Datum) :
    Except Failure Sentence × List Journal.Record :=
  match source with
  | .text text =>
    let reading := mode.read text
    (reading.result.mapError .unreadable, Journal.Record.ofReading mode text reading)
  | other => (.error (.notText other),
      [Journal.Record.readingStarted mode other, Journal.Record.sourceRefused other])

end Clausal
