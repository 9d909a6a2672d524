import Transplant.Disk.Location
import Transplant.Failure
import Transplant.Settings.Check
import Transplant.Yaml.Load
import Transplant.Yaml.Outline

/-!
# Settings files

Settings are read from a YAML document in UTF-8. An empty document means the defaults; any other has to
be a mapping whose keys are texts. They are written with every field, in the order of declaration.
-/

namespace Transplant.Settings

/-- Checks the keys of a document: each is a text, and one of whole characters. -/
def checkTexts (keys : List Data) : Except Failure Unit :=
  let isText : Data → Bool
    | .text _ | .halves _ => true
    | _ => false
  let isHalves : Data → Bool
    | .halves _ => true
    | _ => false
  if !keys.all isText then .error .keyNotText
  else match keys.find? isHalves with
    | some key => (Schema.report .settings (Schema.Checked.fail .undecodable key)).mapError .invalid
    | none => .ok ()

/-- Settings from the value of a document. -/
def ofDocument (d : Data) : Except Failure Settings :=
  if d.isEmpty then (ofData (.map [])).mapError .invalid
  else match d.opened with
    | .map entries => do
      checkTexts (entries.map (·.1))
      (ofData d).mapError .invalid
    | _ => .error (.notMapping d.typeName)

/-- Settings from the bytes of the file at a path. -/
def ofBytes (path : String) (bytes : List UInt8) : Except Failure Settings := do
  let d ← (Yaml.load (.ofBytes bytes)).mapError fun why => .document why (Disk.Location.ofText path).text
  ofDocument d

/-- Settings from the file at a path, which may be missing. -/
def ofFile (path : String) (bytes : Option (List UInt8)) : Except Failure Settings :=
  match bytes with
  | some bytes => ofBytes path bytes
  | none => .error (.noSettingsFile path)

/-! ## Writing -/

/-- The fields of a settings file. -/
def outline (s : Settings) : List (String × Yaml.Outline) :=
  [ ("workflow", .fields
      [ ("mode", .text s.workflow.mode.name)
      , ("change_baseline", .ofText? s.workflow.changeBaseline)
      , ("squash_message", .text s.workflow.squashMessage) ])
  , ("authoring", .fields
      [("default_author", .text s.authoring.defaultAuthor.text)])
  , ("diff", .fields
      [ ("git_binary", .text s.diff.gitBinary)
      , ("excluded_paths", .items s.diff.excludedPaths)
      , ("strip_slashes", .int s.diff.stripSlashes)
      , ("verbose", .bool s.diff.verbose)
      , ("timeout", .int s.diff.timeout) ])
  , ("logging", .fields
      [ ("level", .text s.logging.level.name)
      , ("file", .ofText? s.logging.file)
      , ("format", .text s.logging.format) ]) ]

/-- Checks that the numbers of some settings can be written. -/
def checkNumbers (s : Settings) : Except Numeral.Fault Unit :=
  Yaml.Outline.check (outline s)

/-- The text of a settings file, for settings with numbers that can be written. -/
def toFile (s : Settings) : String :=
  Yaml.Outline.document (outline s)

/-- The settings that a new file starts with. -/
def template : Settings :=
  { workflow := { mode := .iterative }, logging := { file := some "migration.log" } }

end Transplant.Settings
