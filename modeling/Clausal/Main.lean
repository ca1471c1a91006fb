import Clausal.CommandLine.Plan
import Clausal.Files

/-!
# The program

Carries out the plan of a command line: prints what is to be printed, writes the journal to
standard error and an instance to its file.  Without a seed the source of randomness starts
from the system's.
-/

namespace Clausal

namespace Program

/-- Writes the records that reach a level to standard error. -/
def report (level : Journal.Level) (records : List Journal.Record) : IO Unit := do
  for record in (Journal.postAll ⟨level, []⟩ records).written do
    IO.eprintln record.line

/-- The system's number of an error that a file cannot be opened with. -/
def errorNumber : IO.Error → UInt32
  | .noFileOrDirectory _ number _ => number
  | .inappropriateType _ number _ => number
  | .invalidArgument _ number _ => number
  | _ => 0

/-- The fault that an error is, if it is one of those that paths can have. -/
def fault? (error : IO.Error) : Option Files.Fault :=
  [Files.Fault.missing, .notDirectory, .isDirectory, .nameTooLong].find? fun fault =>
    fault.number = (errorNumber error).toNat

/-- Writes a text to a file and returns the exit code. -/
def save (level : Journal.Level) (path text : String) : IO UInt32 := do
  try
    IO.FS.writeFile path text
    report level [.fileWritten path text.length, CommandLine.finished path]
    return 0
  catch error =>
    let message := match fault? error with
      | some fault => (Files.TextFault.writing path fault).message
      | none => toString error
    report level [⟨.error, message⟩]
    return 1

/-- Carries out a plan and returns the exit code. -/
def carryOut : CommandLine.Plan → IO UInt32
  | .help => do
    IO.print CommandLine.help
    return 0
  | .refuse refusal => do
    IO.eprint (CommandLine.complaint refusal)
    return 2
  | .usage _ => do
    IO.print CommandLine.usage
    return 1
  | .work level work => do
    report level work.records
    match work.result with
    | .error failure =>
      IO.eprintln failure.message
      return 1
    | .ok ⟨text, none⟩ =>
      IO.println text
      return 0
    | .ok ⟨text, some path⟩ => save level path text

end Program

end Clausal

/-- Runs the command line. -/
def main (arguments : List String) : IO UInt32 := do
  let entropy ← IO.rand 0 4611686018427387904
  Clausal.Program.carryOut (Clausal.CommandLine.plan arguments (.ofSeed entropy))
