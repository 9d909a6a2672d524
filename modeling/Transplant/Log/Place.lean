import Transplant.Log.Template
import Transplant.Text.Digit
import Transplant.Text.Quoted

/-!
# Places of log files

The path of a log file is a template, so that two braces stand for one. Its only slot is the time at which
the file is made, which is not part of the log and stays empty.
-/

namespace Transplant.Log

/-- Why a text is no path of a log file. -/
inductive PlaceFault where
  | flaw (why : Flaw)
  | unnamed
  | unknown (name : String)
deriving DecidableEq, Repr

/-- The words for a fault. -/
def PlaceFault.message : PlaceFault → String
  | .flaw why => why.message
  | .unnamed => "Format string contains positional fields"
  | .unknown name => Text.quoted name

/-- The text of a part of a path. -/
def placePart : Part → Except PlaceFault (List Char)
  | .text cs => .ok cs
  | .slot s =>
    let name := s.name.takeWhile fun c => c != '.' && c != '['
    if name.all Text.isDigit then .error .unnamed
    else if name == "time".toList then .ok []
    else .error (.unknown (String.ofList name))

/-- The path of the log file that a template describes. -/
def placeOf (template : String) : Except PlaceFault String := do
  let parts ← (Part.ofTemplate template.toList).mapError .flaw
  return String.ofList (← parts.mapM placePart).flatten

end Transplant.Log
