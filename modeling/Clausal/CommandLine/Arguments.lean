import Clausal.CommandLine.Options
import Clausal.Decimal.Numeral

/-!
# Arguments

The settings that a command line makes.  Options are obeyed from left to right.  The ratio
and the output are the first two words of the first run of words; any other word, and any
unknown option, is surplus.  A separator inside that run is passed over.

Letters run together with a flag are flags themselves, and the first that is none is refused
as a value of the flag before it.  This is the rule of argparse in the releases 3.11.0 to
3.11.8; from 3.11.9 on such arguments are answered differently.
-/

namespace Clausal

namespace CommandLine

/-- The settings of a run. -/
structure Arguments where
  ratio : Option String
  output : Option String
  seed : Option Int
  multiline : Bool
  verbose : Bool
  details : Bool
  /-- Whether there is an argument that is not understood. -/
  surplus : Bool
  deriving DecidableEq, Repr

/-- The settings before any argument. -/
def Arguments.initial : Arguments := ⟨none, none, none, false, false, false, false⟩

/-- Why no settings are made: help is asked for, or the arguments are refused. -/
inductive Interruption where
  | help
  | refused (refusal : Refusal)
  deriving DecidableEq, Repr

/-- The settings after a flag. -/
def Arguments.withFlag (arguments : Arguments) : Flag → Except Interruption Arguments
  | .help => .error .help
  | .multiline => .ok { arguments with multiline := true }
  | .verbose => .ok { arguments with verbose := true }
  | .details => .ok { arguments with details := true }

/-- The settings after the text of a seed. -/
def Arguments.withSeed (arguments : Arguments) (text : String) : Except Interruption Arguments :=
  match Numeral.integer? text with
  | some seed => .ok { arguments with seed := some seed }
  | none => .error (.refused (.seedNotInteger text))

/-- The settings with something left over. -/
def Arguments.withSurplus (arguments : Arguments) : Arguments := { arguments with surplus := true }

/-- The flags that a flag and the letters run together with it are.  Where a letter is no
flag, it and the letters after it are refused as a value of the flag before. -/
def cluster (flag : Flag) : List Char → Except Refusal (List Flag)
  | [] => .ok [flag]
  | letter :: rest =>
    match spellings.lookup (String.ofList ['-', letter]) with
    | some (.flag next) => (flag :: ·) <$> cluster next rest
    | _ => .error (.valueIgnored flag (String.ofList (letter :: rest)))

/-- The settings after a flag and the letters run together with it.  Nothing is obeyed if a
letter is refused. -/
def Arguments.withCluster (arguments : Arguments) (flag : Flag) (letters : List Char) :
    Except Interruption Arguments := do
  let flags ← (cluster flag letters).mapError .refused
  flags.foldlM Arguments.withFlag arguments

/-- What the next word is taken for. -/
inductive Awaited where
  | ratio
  /-- The output, if it comes before any option. -/
  | output
  /-- Nothing; a separator may still end the run of words. -/
  | ending
  | nothing
  deriving DecidableEq, Repr

/-- What is awaited after an option. -/
def Awaited.afterOption : Awaited → Awaited
  | .ratio => .ratio
  | _ => .nothing

/-- The settings after the items of a command line.  A bare double hyphen that stands for
the output names none. -/
def obey (arguments : Arguments) (awaited : Awaited) :
    List Item → Except Interruption Arguments
  | [] => .ok arguments
  | .option .seed .nothing :: .word text :: rest => do
    let arguments ← arguments.withSeed text
    obey arguments awaited.afterOption rest
  | .option .seed .nothing :: _ => .error (.refused .valueMissing)
  | .option .seed (.value text) :: rest => do
    let arguments ← arguments.withSeed text
    obey arguments awaited.afterOption rest
  | .option .seed (.letters letters) :: rest => do
    let arguments ← arguments.withSeed (String.ofList letters)
    obey arguments awaited.afterOption rest
  | .option (.flag flag) .nothing :: rest => do
    let arguments ← arguments.withFlag flag
    obey arguments awaited.afterOption rest
  | .option (.flag flag) (.value text) :: _ => .error (.refused (.valueIgnored flag text))
  | .option (.flag flag) (.letters letters) :: rest => do
    let arguments ← arguments.withCluster flag letters
    obey arguments awaited.afterOption rest
  | .unknown :: rest => obey arguments.withSurplus awaited.afterOption rest
  | .separator :: rest =>
    match awaited with
    | .ratio => obey arguments .ratio rest
    | .output => obey arguments .output rest
    | .ending => obey arguments .nothing rest
    | .nothing => obey arguments.withSurplus .nothing rest
  | .word text :: rest =>
    match awaited with
    | .ratio => obey { arguments with ratio := some text } .output rest
    | .output =>
      obey { arguments with output := if text = "--" then none else some text } .ending rest
    | .ending => obey arguments.withSurplus .nothing rest
    | .nothing => obey arguments.withSurplus .nothing rest

/-- The settings that a command line makes. -/
def Arguments.read (arguments : List String) : Except Interruption Arguments := do
  let items ← (itemize arguments).mapError .refused
  obey .initial .ratio items

end CommandLine

end Clausal
