import Clausal.Datum
import Clausal.Files
import Clausal.Instance
import Clausal.Ratio
import Clausal.Reading.Error
import Clausal.Sentence.Draft

/-!
# Failures

Whatever can go wrong with a request, by its cause.
-/

namespace Clausal

/-- Why a request has no answer. -/
inductive Failure where
  /-- A text is no sentence. -/
  | unreadable (fault : ReadError)
  /-- Something that is no text was to be read as a sentence. -/
  | notText (source : Datum)
  /-- A tree is no sentence. -/
  | draft (fault : Draft.Fault)
  /-- A file cannot be read or written. -/
  | file (fault : Files.TextFault)
  /-- Nothing can be drawn. -/
  | draw (fault : Instance.Fault)
  /-- A text is no ratio. -/
  | ratio (fault : Ratio.Fault)
  /-- A number cannot be converted. -/
  | number (fault : Binary64.Fault)

namespace Failure

/-- What is said of a value that is read although it is no text. -/
def notTextMessage (source : Datum) : String :=
  "'" ++ source.typeName ++ "' object is not subscriptable"

/-- The wording of a failure. -/
def message : Failure → String
  | unreadable fault => fault.message
  | notText source => notTextMessage source
  | draft fault => fault.message
  | file fault => fault.message
  | draw fault => fault.message
  | ratio fault => fault.message
  | number fault => fault.message

end Failure

end Clausal
