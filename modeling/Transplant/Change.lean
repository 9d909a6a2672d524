import Transplant.Author
import Transplant.Schema.Checked

/-!
# Changes

A change that was read from the origin, and the message and author of the change that is written
to the destination for it. Both are checked when they are built and never modified.
-/

namespace Transplant

/-- A change read from the origin. -/
structure Change where
  ref : String
  author : Author
  message : String
  labels : List (String × String)
  date : Option Timestamp
deriving Repr, Inhabited

/-- The message and author of a destination change. -/
structure Metadata where
  message : String
  author : Author
deriving DecidableEq, Repr, Inhabited

open Schema

namespace Author

/-- Checks the data of an author. -/
def check (d : Data) : Checked Author :=
  record .author d fun es =>
    Checked.map2 Author.mk (field es "name" none readText) (field es "email" (some "") readText)

/-- Builds an author from data. -/
def ofData (d : Data) : Except Report Author :=
  report .author (check d)

/-- The data of an author. -/
def toData (a : Author) : Data :=
  .ofFields [("name", .text a.name), ("email", .text a.email)]

/-- An author from its text, or the reason why there is none. -/
def parse (identity : String) : Except Refusal Author :=
  match parse? identity with
  | some a => .ok a
  | none => .error (.malformedIdentity identity)

end Author

namespace Change

/-- Checks a reference, which has to have a character other than whitespace. -/
def checkRef (d : Data) : Checked String := do
  let ref ← readText d
  if Text.allBlank ref then Checked.fail (.refused .blankReference) d else .ok ref

/-- Checks the data of a change. -/
def check (d : Data) : Checked Change :=
  record .change d fun es =>
    Checked.map5 Change.mk
      (field es "ref" none checkRef)
      (field es "author" none Author.check)
      (field es "message" none readText)
      (field es "labels" (some []) readTextMap)
      (field es "date" (some none) readTimestamp?)

/-- Builds a change from data. -/
def ofData (d : Data) : Except Report Change :=
  report .change (check d)

/-- The data of a change. -/
def toData (c : Change) : Data :=
  .ofFields
    [ ("ref", .text c.ref)
    , ("author", c.author.toData)
    , ("message", .text c.message)
    , ("labels", .ofFields (c.labels.map fun (k, v) => (k, .text v)))
    , ("date", c.date.elim .null fun t => .text t.text) ]

/-- The first line of the message of a change. -/
def firstLine (c : Change) : String :=
  Text.firstLine c.message

/-- A change as `reference: first line`. -/
def text (c : Change) : String :=
  c.ref ++ ": " ++ c.firstLine

/-- The value of a label. -/
def label? (c : Change) (name : String) : Option String :=
  (c.labels.find? fun l => l.1 == name).map (·.2)

/-- Whether two changes have the same content; the order of labels does not count. -/
def same (c d : Change) : Bool :=
  c.ref == d.ref && c.author == d.author && c.message == d.message &&
    c.labels.length == d.labels.length && c.labels.all (d.labels.contains ·) &&
    (match c.date, d.date with
      | none, none => true
      | some t, some u => t.same u
      | _, _ => false)

/-- The metadata that keeps the message and author of a change. -/
def metadata (c : Change) : Metadata :=
  ⟨c.message, c.author⟩

end Change

namespace Metadata

/-- Checks the data of metadata. -/
def check (d : Data) : Checked Metadata :=
  record .metadata d fun es =>
    Checked.map2 Metadata.mk (field es "message" none readText) (field es "author" none Author.check)

/-- Builds metadata from data. -/
def ofData (d : Data) : Except Report Metadata :=
  report .metadata (check d)

/-- The data of metadata. -/
def toData (m : Metadata) : Data :=
  .ofFields [("message", .text m.message), ("author", m.author.toData)]

end Metadata

end Transplant
