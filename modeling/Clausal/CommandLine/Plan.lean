import Clausal.CommandLine.Arguments
import Clausal.Random
import Clausal.Reading.Report
import Clausal.Sentence.Rendering

/-!
# What a command line asks for

A plan is what a command line comes to before anything is printed or written: help, a
refusal, the usage, or an instance to be emitted.  An instance is drawn from the seed if
there is one, else from the source that the caller provides.  For one clause a line its
text is read as clauses and rendered again.
-/

namespace Clausal

namespace CommandLine

/-! ## What the command line says about itself -/

/-- How the program is called. -/
def usage : String :=
  "usage: random-cnf [-h] [--seed SEED] [--multiline] [-v] [--debug]\n" ++
  "                  [ratio] [output]\n"

/-- What the program does and what its arguments mean. -/
def help : String :=
  usage ++ "\n" ++
  "Generate a random 3-SAT instance over the variables A-Z\n" ++
  "\n" ++
  "positional arguments:\n" ++
  "  ratio          Ratio of clauses to variables, e.g. 2.2\n" ++
  "  output         File to write; standard output if omitted\n" ++
  "\n" ++
  "options:\n" ++
  "  -h, --help     show this help message and exit\n" ++
  "  --seed SEED    Seed for reproducible output\n" ++
  "  --multiline    Write one clause per line\n" ++
  "  -v, --verbose  Enable verbose output\n" ++
  "  --debug        Enable debug output (overrides --verbose)\n" ++
  "\n" ++
  "Examples:\n" ++
  "  random-cnf 2.2                   # 57 clauses to standard output\n" ++
  "  random-cnf 2.2 mysentence.cnf    # 57 clauses written to mysentence.cnf\n" ++
  "  random-cnf 4.3 hard.cnf --seed 7 --multiline\n" ++
  "        \n"

/-! ## Plans -/

/-- A text and the file that it goes to, standard output if there is none. -/
structure Emission where
  text : String
  output : Option String
  deriving DecidableEq, Repr

/-- The work on an instance: what the journal is told on the way, and what is emitted in
the end. -/
structure Work where
  records : List Journal.Record
  result : Except Failure Emission

/-- What a command line comes to. -/
inductive Plan where
  | help
  | refuse (refusal : Refusal)
  /-- The arguments are not those of a run; the journal takes over its level from them. -/
  | usage (level : Journal.Level)
  | work (level : Journal.Level) (work : Work)

/-- The draw of an instance for a number of clauses, and the record of it. -/
def drawn (count : Int) (source : Twister) : Except Failure String × List Journal.Record :=
  let draw : Instance.Draw Twister _ :=
    Instance.draw count Instance.usualAlphabet Instance.usualWidth
  match (draw.run source).1 with
  | .ok clauses => (.ok (Instance.text clauses),
      [.instanceDrawn count Instance.usualWidth Instance.usualAlphabet.length])
  | .error fault => (.error (.draw fault), [])

/-- The text of an instance with one clause a line, and the records of reading it. -/
def stacked (text : String) : Except Failure String × List Journal.Record :=
  let (sentence, records) := Reading.reported .clausal (.text text)
  (sentence.map (·.format .stacked), records)

/-- The text that is emitted for a number of clauses, and the records on the way. -/
def emitted (multiline : Bool) (count : Int) (source : Twister) :
    Except Failure String × List Journal.Record :=
  match drawn count source with
  | (.ok text, records) =>
    if multiline then
      let (result, more) := stacked text
      (result, records ++ more)
    else (.ok text, records)
  | (.error failure, records) => (.error failure, records)

/-- The record that the work begins. -/
def started (count : Int) (ratio : Binary64) : Journal.Record :=
  ⟨.info, "Generating " ++ toString count ++ " clauses (ratio " ++ ratio.text ++ ")"⟩

/-- The number of clauses that the text of a ratio asks for, and the ratio. -/
def clauseCount (text : String) : Except Failure (Int × Binary64) := do
  let ratio ← (Ratio.read text).mapError .ratio
  let count ← (Ratio.clauseCount ratio Ratio.usualLetters).mapError .number
  return (count, ratio)

/-- The work for the text of a ratio under the given settings. -/
def workFor (arguments : Arguments) (ratioText : String) (unseeded : Twister) : Work :=
  match clauseCount ratioText with
  | .error failure => ⟨[], .error failure⟩
  | .ok (count, ratio) =>
    let source := match arguments.seed with
      | some seed => Twister.ofSeed seed
      | none => unseeded
    let (text, records) := emitted arguments.multiline count source
    ⟨started count ratio :: records, text.map fun text => ⟨text, arguments.output⟩⟩

/-- What a command line comes to.  Where no seed is given, draws are taken from the source
provided. -/
def plan (arguments : List String) (unseeded : Twister) : Plan :=
  match Arguments.read arguments with
  | .error .help => .help
  | .error (.refused refusal) => .refuse refusal
  | .ok arguments =>
    let level := Journal.Level.requested arguments.verbose arguments.details
    match arguments.ratio, arguments.surplus with
    | some ratio, false => .work level (workFor arguments ratio unseeded)
    | _, _ => .usage level

/-- The complaint about a refused command line. -/
def complaint (refusal : Refusal) : String :=
  usage ++ "random-cnf: error: " ++ refusal.message ++ "\n"

/-- The record that an instance was written. -/
def finished (path : String) : Journal.Record := ⟨.info, "Instance written to " ++ path⟩

end CommandLine

end Clausal
