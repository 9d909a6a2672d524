import Transplant.Failure
import Transplant.Settings.Check

/-!
# Records with assignable fields

Settings records accept assignments to their fields, which are not checked again. A record is its
model with the value of each field; a section inside the settings is equal only to a section of
the same model.
-/

namespace Transplant

/-- The value of a field: plain data, or a record of some model. -/
structure Attribute where
  model : Option Model
  value : Data

/-- A record with the values of its fields in order. -/
structure Record where
  model : Model
  fields : List (String × Attribute)

namespace Record

/-- The fields of a mapping as plain data. -/
def plainFields : Data → List (String × Attribute)
  | .map entries => entries.filterMap fun
    | (.text k, v) => some (k, ⟨none, v⟩)
    | _ => none
  | _ => []

/-- The record of settings. -/
def ofSettings (s : Settings) : Record :=
  ⟨.settings,
    [ ("workflow", ⟨some .workflow, s.workflow.toData⟩)
    , ("authoring", ⟨some .authoring, s.authoring.toData⟩)
    , ("diff", ⟨some .diff, s.diff.toData⟩)
    , ("logging", ⟨some .logging, s.logging.toData⟩) ]⟩

/-- Builds the record of a model from data. -/
def ofData (model : Model) (d : Data) : Except Schema.Report Record :=
  match model with
  | .settings => (Settings.ofData d).map ofSettings
  | .workflow => (Settings.Workflow.ofData d).map fun s => ⟨.workflow, plainFields s.toData⟩
  | .authoring => (Settings.Authoring.ofData d).map fun s => ⟨.authoring, plainFields s.toData⟩
  | .diff => (Settings.Diff.ofData d).map fun s => ⟨.diff, plainFields s.toData⟩
  | .logging => (Settings.Logging.ofData d).map fun s => ⟨.logging, plainFields s.toData⟩
  | .author => (Author.ofData d).map fun s => ⟨.author, plainFields s.toData⟩
  | .change => (Change.ofData d).map fun s => ⟨.change, plainFields s.toData⟩
  | .metadata => (Metadata.ofData d).map fun s => ⟨.metadata, plainFields s.toData⟩

/-- The data of a record. -/
def toData (r : Record) : Data :=
  .ofFields (r.fields.map fun (k, a) => (k, a.value))

/-- Whether the records of a model never change. -/
def isFrozen : Model → Bool
  | .author | .change | .metadata => true
  | _ => false

/-- Whether a name is that of a private remark on a record, which is no part of it. -/
def isRemark (name : String) : Bool :=
  name.toList.head? == some '_'

/-- Names of what is computed from a record. -/
def computedNames : List String :=
  ["model_extra", "model_fields_set", "__fields_set__"]

/-- Puts a remark on a record, which leaves the record as it is. What the record is and what it holds
are no remarks. -/
def remark (r : Record) (name : String) (value : Data) : Except Failure Record :=
  if computedNames.contains name then .error (.computedField r.model name)
  else if name == "__class__" then .error (.notClass value.typeName)
  else match name, value with
    | "__dict__", .map _ => .ok r
    | "__dict__", _ => .error (.notFields value.typeName)
    | _, _ => .ok r

/-- Puts a value into a field. A private remark may be put on any record. -/
def assign (r : Record) (name : String) (value : Data) : Except Failure Record :=
  if isRemark name then r.remark name value
  else if isFrozen r.model then
    .error (.invalid ⟨r.model, [⟨[.field name], .frozen, value⟩]⟩)
  else if r.fields.any (·.1 == name) then
    .ok { r with fields := r.fields.map fun (k, a) => if k == name then (k, ⟨none, value⟩) else (k, a) }
  else if computedNames.contains name then .error (.computedField r.model name)
  else .error (.unknownField r.model name)

/-- Whether two records of one model have the same values. -/
def same (r s : Record) : Bool :=
  r.model == s.model && r.fields.length == s.fields.length &&
    (r.fields.zip s.fields).all fun ((k, a), (l, b)) =>
      k == l && a.model == b.model && a.value.same b.value

end Record

end Transplant
