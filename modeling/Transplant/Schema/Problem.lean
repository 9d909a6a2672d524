import Transplant.Data.Quoted
import Transplant.Log.Level
import Transplant.Mode
import Transplant.Text.Split

/-!
# Problems in supplied data

What can be wrong with the data for a record: each problem has its place, its fault and the value
found there. A report lists the problems of one record in the order of its fields.
-/

namespace Transplant

/-- Why a value of the right type is refused. -/
inductive Refusal where
  | blankReference
  | unknownMode
  | malformedIdentity (identity : String)
  | negativeStrip
  | timeoutNotPositive
  | unknownLevel
deriving DecidableEq, Repr

/-- The words of a refusal. -/
def Refusal.message : Refusal → String
  | .blankReference => "Change reference cannot be empty"
  | .unknownMode => "Workflow mode must be one of: " ++ Text.quotedList (Mode.all.map Mode.name)
  | .malformedIdentity s => "Author must be in the form \"Name <email>\": " ++ Text.quoted s
  | .negativeStrip => "stripSlashes must be >= 0."
  | .timeoutNotPositive => "Diff timeout must be positive"
  | .unknownLevel =>
    "Log level must be one of: " ++ Text.quotedList (Log.Level.configurable.map Log.Level.name)

/-- The records that are built from supplied data. -/
inductive Model where
  | settings
  | workflow
  | authoring
  | diff
  | logging
  | author
  | change
  | metadata
deriving DecidableEq, Repr

/-- The name of a record in reports. -/
def Model.name : Model → String
  | .settings => "Config"
  | .workflow => "WorkflowConfig"
  | .authoring => "AuthoringConfig"
  | .diff => "DiffConfig"
  | .logging => "LoggingConfig"
  | .author => "Author"
  | .change => "Change"
  | .metadata => "Metadata"

namespace Schema

/-- A step to a place in the data: into a field or to an item of a sequence. -/
inductive Step where
  | field (name : String)
  | item (index : Nat)
deriving DecidableEq, Repr

/-- What is wrong with a value. -/
inductive Fault where
  | missing
  | unexpected
  | frozen
  | notText
  | notBool
  | unreadableBool
  | notInt
  | unreadableInt
  | fractional
  | notFinite
  | tooLarge
  | notList
  | notMapping
  | notRecord (model : Model)
  | notTimestamp
  | timestamp (why : DateFault)
  | date (why : DateFault)
  | undecodable
  | refused (why : Refusal)
deriving DecidableEq, Repr

/-- The code of a fault. -/
def Fault.code : Fault → String
  | .missing => "missing"
  | .unexpected => "extra_forbidden"
  | .frozen => "frozen_instance"
  | .notText => "string_type"
  | .notBool => "bool_type"
  | .unreadableBool => "bool_parsing"
  | .notInt => "int_type"
  | .unreadableInt => "int_parsing"
  | .fractional => "int_from_float"
  | .notFinite => "finite_number"
  | .tooLarge => "int_parsing_size"
  | .notList => "list_type"
  | .notMapping => "dict_type"
  | .notRecord _ => "model_type"
  | .notTimestamp => "datetime_type"
  | .timestamp _ => "datetime_parsing"
  | .date _ => "datetime_from_date_parsing"
  | .undecodable => "string_unicode"
  | .refused _ => "value_error"

/-- The words of a fault. -/
def Fault.message : Fault → String
  | .missing => "Field required"
  | .unexpected => "Extra inputs are not permitted"
  | .frozen => "Instance is frozen"
  | .notText => "Input should be a valid string"
  | .notBool => "Input should be a valid boolean"
  | .unreadableBool => "Input should be a valid boolean, unable to interpret input"
  | .notInt => "Input should be a valid integer"
  | .unreadableInt => "Input should be a valid integer, unable to parse string as an integer"
  | .fractional => "Input should be a valid integer, got a number with a fractional part"
  | .notFinite => "Input should be a finite number"
  | .tooLarge => "Unable to parse input string as an integer, exceeded maximum size"
  | .notList => "Input should be a valid list"
  | .notMapping => "Input should be a valid dictionary"
  | .notRecord m => "Input should be a valid dictionary or instance of " ++ m.name
  | .notTimestamp => "Input should be a valid datetime"
  | .timestamp why => "Input should be a valid datetime, " ++ why.message
  | .date why => "Input should be a valid datetime or date, " ++ why.message
  | .undecodable => "Input should be a valid string, unable to parse raw data as a unicode string"
  | .refused why => "Value error, " ++ why.message

/-- A fault at a place in the data, with the value found there. -/
structure Problem where
  path : List Step
  fault : Fault
  input : Data

/-- A problem seen from one step further out. -/
def Problem.under (step : Step) (p : Problem) : Problem :=
  { p with path := step :: p.path }

/-- The problems found while building a record. -/
structure Report where
  model : Model
  problems : List Problem

/-- The longest run of whole characters within a number of bytes. -/
def takeBytes (limit : Nat) : List Char → List Char
  | [] => []
  | c :: cs => if c.utf8Size ≤ limit then c :: takeBytes (limit - c.utf8Size) cs else []

/-- The text of a value, cut in the middle when it has more than fifty bytes. -/
def excerpt (d : Data) : String :=
  let cs := d.quoted.toList
  if Text.encodedLength cs > 50 then
    String.ofList (takeBytes 25 cs) ++ "..." ++ String.ofList (takeBytes 24 cs.reverse).reverse
  else d.quoted

/-- The text of a step; a name with a point in it stands between backticks. -/
def Step.text : Step → String
  | .field name => if name.toList.contains '.' then "`" ++ name ++ "`" else name
  | .item n => Text.decimal n

/-- The line of a place; the value itself has none. -/
def placeLine (path : List Step) : String :=
  if path.isEmpty then "" else ".".intercalate (path.map Step.text) ++ "\n"

/-- The paragraph of a problem in a report. -/
def Problem.text (p : Problem) : String :=
  placeLine p.path ++ "  " ++ p.fault.message ++ " [type=" ++ p.fault.code ++ ", input_value=" ++
    excerpt p.input ++ ", input_type=" ++ p.input.shortTypeName ++
    "]\n    For further information visit https://errors.pydantic.dev/2.14/v/" ++ p.fault.code

/-- The text of a report: a headline and a paragraph for each problem. -/
def Report.text (r : Report) : String :=
  let n := r.problems.length
  "\n".intercalate
    ((Text.decimal n ++ " validation error" ++ (if n == 1 then "" else "s") ++ " for " ++ r.model.name)
      :: r.problems.map Problem.text)

end Schema

end Transplant
