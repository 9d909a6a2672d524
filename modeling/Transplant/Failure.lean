import Transplant.Disk.Fault
import Transplant.Environment.Basic
import Transplant.Log.Place
import Transplant.Number.Numeral
import Transplant.Schema.Problem
import Transplant.Terminal.Markup
import Transplant.Yaml.Fault

/-!
# Failures

Why an operation did not return. A failure is a cause with what it is about; its kind and its words
are functions of the cause. Kinds form a hierarchy, and who handles a kind handles those below it.
-/

namespace Transplant

namespace Failure

/-- The kinds of failures. A kind that is not listed counts as one that the same handlers handle. -/
inductive Kind where
  | migration
  | repository
  | precondition
  | emptyChange
  | rejected
  | tool
  | conflict
  | modeNotImplemented
  | invalid
  | document
  | value
  | runtime
  | notImplemented
  | wrongType
  | notFound
  | permission
  | undecodable
  | interrupt
  | exit
  | generatorExit
  | cancelled
  | endOfInput
  | missingName
  | missingAttribute
  | outOfBounds
  | overflow
  | endless
  | markup
  | system
  | isDirectory
  | notDirectory
  | taken
deriving DecidableEq, Repr

/-- The kinds above a kind. -/
def Kind.above : Kind → List Kind
  | .repository | .precondition | .rejected | .tool => [.migration]
  | .emptyChange => [.precondition, .migration]
  | .conflict => [.tool, .migration]
  | .modeNotImplemented => [.migration, .notImplemented, .runtime]
  | .notImplemented | .endless => [.runtime]
  | .invalid | .undecodable => [.value]
  | .notFound | .permission | .isDirectory | .notDirectory | .taken => [.system]
  | _ => []

/-- Whether a handler of one kind handles a failure of another. -/
def Kind.isA (k handled : Kind) : Bool :=
  k == handled || k.above.contains handled

/-- Whether a failure is an error, which a handler of all errors handles. An interrupt by the operator, an exit, the
end of a generator and the cancellation of a task are none. -/
def Kind.isError : Kind → Bool
  | .interrupt | .exit | .generatorExit | .cancelled => false
  | _ => true

end Failure

/-- Why an operation did not return. -/
inductive Failure where
  | raised (kind : Failure.Kind) (message : String)
  | rejected (message : String) (migrated : List String) (lastChange : Option String)
  | tool (message stderr : String)
  | conflict (message : String) (path : Option String) (line : Option Int) (stderr : String)
  | invalid (report : Schema.Report)
  | refused (why : Refusal)
  | badNumeral (why : Numeral.Fault)
  | environment (why : Environment.Fault)
  | document (why : Yaml.Fault) (file : String)
  | notMapping (typeName : String)
  | keyNotText
  | noSettingsFile (path : String)
  | unknownReference (ref : String)
  | overlap (refs : List String)
  | noBaseline
  | notImplemented (mode : Mode)
  | unknownMode (shown : String)
  | unknownResult (shown : String)
  | unknownField (model : Model) (name : String)
  | computedField (model : Model) (name : String)
  | notClass (typeName : String)
  | notFields (typeName : String)
  | notSiblings (left right : String)
  | unknownLevel (name : String)
  | badLayout
  | place (why : Log.PlaceFault)
  | markup (why : Terminal.MarkupFault)
  | disk (why : Disk.Fault) (path : String)

namespace Failure

/-- The kind of the failure of a scalar that is no value of its type. -/
def scalarKind : Yaml.ScalarFault → Kind
  | .entries => .wrongType
  | .noDigits => .outOfBounds
  | .noWord _ => .missingName
  | .noTime => .missingAttribute
  | .endless => .endless
  | .overflow _ => .overflow
  | _ => .value

/-- The kind of a fault of the disk. -/
def diskKind : Disk.Fault → Kind
  | .missing => .notFound
  | .denied => .permission
  | .taken => .taken
  | .notDirectory => .notDirectory
  | .isDirectory => .isDirectory
  | .nameTooLong | .other .. => .system
  | .nullByte => .value

/-- The kind of a failure. -/
def kind : Failure → Kind
  | .raised k _ => k
  | .rejected .. => .rejected
  | .tool .. => .tool
  | .conflict .. => .conflict
  | .invalid _ => .invalid
  | .refused _ => .value
  | .badNumeral _ => .value
  | .environment _ => .value
  | .document (.scalar why) _ => scalarKind why
  | .document (.undecodable _) _ => .undecodable
  | .document .. => .document
  | .notMapping _ => .wrongType
  | .keyNotText => .wrongType
  | .noSettingsFile _ => .notFound
  | .unknownReference _ => .repository
  | .overlap _ => .value
  | .noBaseline => .precondition
  | .notImplemented _ => .modeNotImplemented
  | .unknownMode _ => .value
  | .unknownResult _ => .value
  | .unknownField .. => .value
  | .computedField .. => .missingAttribute
  | .notClass _ | .notFields _ => .wrongType
  | .notSiblings .. => .value
  | .unknownLevel _ => .value
  | .badLayout => .value
  | .place (.unknown _) => .missingName
  | .place _ => .value
  | .markup (.numeral _) => .value
  | .markup _ => .markup
  | .disk why _ => diskKind why

/-- The words of a failure. -/
def message : Failure → String
  | .raised _ m | .rejected m _ _ | .tool m _ | .conflict m _ _ _ => m
  | .invalid report => report.text
  | .refused why => why.message
  | .badNumeral why => why.message
  | .environment why => why.message
  | .document why file => why.message file
  | .notMapping name =>
    "tree_migrate.config.config.Config() argument after ** must be a mapping, not " ++ name
  | .keyNotText => "keywords must be strings"
  | .noSettingsFile path => "Configuration file not found: " ++ path
  | .unknownReference ref => "Cannot find reference '" ++ ref ++ "'"
  | .overlap refs => "Changes cannot be both current and migrated: " ++ ", ".intercalate refs
  | .noBaseline =>
    "Cannot find matching parent commit in the destination. Use '--change-request-parent' flag to " ++
      "force a parent commit to use as baseline in the destination."
  | .notImplemented mode => "WorkflowMode '" ++ mode.name ++ "' not implemented."
  | .unknownMode shown => shown ++ " is not a valid WorkflowMode"
  | .unknownResult shown => shown ++ " is not a valid WriterResult"
  | .computedField model name => "property '" ++ name ++ "' of '" ++ model.name ++ "' object has no setter"
  | .notClass name => "__class__ must be set to a class, not '" ++ name ++ "' object"
  | .notFields name => "__dict__ must be set to a dictionary, not a '" ++ name ++ "'"
  | .unknownField model name => "\"" ++ model.name ++ "\" object has no field \"" ++ name ++ "\""
  | .notSiblings left right => "Paths '" ++ left ++ "' and '" ++ right ++ "' must be sibling directories."
  | .unknownLevel name => "Level '" ++ name ++ "' does not exist"
  | .badLayout => "Invalid format, color markups could not be parsed correctly"
  | .place why => why.message
  | .markup why => why.message
  | .disk why path => why.message path

/-- A failure of a kind in given words, without further details. -/
def ofKind (kind : Kind) (message : String) : Failure :=
  match kind with
  | .rejected => .rejected message [] none
  | .tool => .tool message ""
  | .conflict => .conflict message none none ""
  | k => .raised k message

end Failure

end Transplant
