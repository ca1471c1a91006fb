import Clausal.CommandLine.Plan
import Clausal.Files

/-!
# Sessions

A session is what requests share: the files, the journal and a source of randomness.  Each
request is answered from the session and leaves it changed; a request that fails leaves
what it has done until then.
-/

namespace Clausal

/-- What requests share. -/
structure Session where
  files : Files
  journal : Journal
  random : Twister

namespace Session

/-- An activity in a session. -/
abbrev Activity (Value : Type) := StateM Session Value

/-- The session before any request: no files, progress and worse written down. -/
def initial (seed : Int) : Session := ⟨.empty, ⟨.info, []⟩, .ofSeed seed⟩

/-! ## Journal -/

/-- Offers a record to the journal. -/
def post (record : Journal.Record) : Activity Unit :=
  modify fun session => { session with journal := session.journal.post record }

/-- Offers records to the journal in order. -/
def postAll (records : List Journal.Record) : Activity Unit :=
  modify fun session => { session with journal := session.journal.postAll records }

/-- Changes the level of the journal. -/
def setLevel (level : Journal.Level) : Activity Unit :=
  modify fun session => { session with journal := { session.journal with level := level } }

/-! ## Reading -/

/-- The tokens of a text. -/
def scan (text : String) : Activity (List Token) := do
  let tokens := Token.scan text
  postAll (Journal.Record.straySymbols tokens)
  return tokens

/-- Reads a value as a sentence. -/
def read (mode : Reading.Mode) (source : Datum) : Activity (Except Failure Sentence) := do
  let (result, records) := Reading.reported mode source
  postAll records
  return result

/-! ## Files -/

/-- The text of a file. -/
def load (path : String) : Activity (Except Failure String) := do
  post (.fileOpened path)
  match (← get).files.read path with
  | .error fault => return .error (.file fault)
  | .ok text =>
    post (.fileRead path text.length)
    return .ok text

/-- Writes a text to a file. -/
def save (path text : String) : Activity (Except Failure Unit) := do
  match (← get).files.write path text with
  | .error fault => return .error (.file fault)
  | .ok files =>
    modify fun session => { session with files := files }
    post (.fileWritten path text.length)
    return .ok ()

/-- Reads the text of a file as a sentence. -/
def readSentenceFile (mode : Reading.Mode) (path : String) :
    Activity (Except Failure Sentence) := do
  match ← load path with
  | .error failure => return .error failure
  | .ok text => read mode (.text text)

/-! ## Draws -/

/-- Takes a draw from the source of the session. -/
def draw {Value : Type} (draw : Instance.Draw Twister Value) :
    Activity (Except Failure Value) := do
  let session ← get
  let (result, random) := draw.run session.random
  set { session with random := random }
  return result.mapError .draw

/-- Draws a literal. -/
def drawLiteral (alphabet : List String) : Activity (Except Failure String) := do
  let literal ← draw (Instance.literal alphabet)
  return literal.map Literal.text

/-- Draws a clause.  A width below one gives an empty clause. -/
def drawClause (alphabet : List String) (width : Int) : Activity (Except Failure String) := do
  let clause ← draw (Instance.clause alphabet width.toNat)
  return clause.map Instance.clauseText

/-- Draws an instance from a source of its own if one is given, else from that of the
session. -/
def drawInstance (count : Datum) (alphabet : List String) (width : Int) (own : Option Twister) :
    Activity (Except Failure String) := do
  let .integer count := count | return .error (.draw (.countNotInteger count.shown))
  let result ← match own with
    | some source =>
      let draw : Instance.Draw Twister _ := Instance.draw count alphabet width
      pure ((draw.run source).1.mapError .draw)
    | none => draw (Instance.draw count alphabet width)
  match result with
  | .error failure => return .error failure
  | .ok clauses =>
    post (.instanceDrawn count width alphabet.length)
    return .ok (Instance.text clauses)

/-! ## Command line -/

/-- How a run of the command line ends. -/
inductive Ending where
  /-- With an exit code. -/
  | returned (code : Nat)
  /-- With an exit code, before the run proper. -/
  | exited (code : Nat)
  /-- With a failure. -/
  | failed (failure : Failure)

/-- What a run of the command line shows: the standard output, what is written to standard
error besides the journal, and how it ends. -/
structure Run where
  output : String
  complaint : String
  ending : Ending

/-- Emits a text to its file or to standard output. -/
def emit (emission : CommandLine.Emission) : Activity Run := do
  match emission.output with
  | none => return ⟨emission.text ++ "\n", "", .returned 0⟩
  | some path =>
    match ← save path emission.text with
    | .ok () =>
      post (CommandLine.finished path)
      return ⟨"", "", .returned 0⟩
    | .error (.file (.writing path fault)) =>
      post ⟨.error, (Files.TextFault.writing path fault).message⟩
      return ⟨"", "", .returned 1⟩
    | .error failure => return ⟨"", "", .failed failure⟩

/-- Runs a command line.  Where it gives no seed, draws are taken from the source
provided, not from that of the session. -/
def runCommandLine (arguments : List String) (unseeded : Twister) : Activity Run := do
  match CommandLine.plan arguments unseeded with
  | .help => return ⟨CommandLine.help, "", .exited 0⟩
  | .refuse refusal => return ⟨"", CommandLine.complaint refusal, .exited 2⟩
  | .usage level =>
    setLevel level
    return ⟨CommandLine.usage, "", .returned 1⟩
  | .work level work =>
    setLevel level
    postAll work.records
    match work.result with
    | .error failure => return ⟨"", "", .failed failure⟩
    | .ok emission => emit emission

end Session

end Clausal
