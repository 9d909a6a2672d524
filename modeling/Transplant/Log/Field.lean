import Transplant.Log.Record
import Transplant.Log.Template
import Transplant.Text.Fit
import Transplant.Text.Quoted

/-!
# Fields of a record

What the slots of a layout name: the message, the level with its name, weight and sign, and the
component. The time and place of a record are not part of it; slots for them stay empty. A record for
which some slot has no value is not shown.
-/

namespace Transplant.Log

/-- The component of a record that names none. -/
def defaultComponent : String := "tree-migrate"

/-- The sign of a level. -/
def Level.icon : Level → String
  | .trace => "\u270f\ufe0f"
  | .debug => "🐞"
  | .info => "\u2139\ufe0f"
  | .success => "\u2705"
  | .warning => "\u26a0\ufe0f"
  | .error => "\u274c"
  | .critical => "\u2620\ufe0f"

/-- What a slot stands for. -/
inductive Field where
  | text (cs : List Char)
  | number (n : Nat)
  | level (l : Level)
  | labels (component : String)
  | empty
deriving DecidableEq, Repr

namespace Field

/-- The names for the time and place of a record. -/
def unrecorded : List String :=
  ["elapsed", "file", "function", "line", "module", "name", "process", "thread", "time"]

/-- The field of a record with a name. -/
def ofName? (r : Record) (name : List Char) : Option Field :=
  match String.ofList name with
  | "message" => some (.text r.message.toList)
  | "level" => some (.level r.level)
  | "extra" => some (.labels (r.component.getD defaultComponent))
  | "exception" => some (.text [])
  | other => if unrecorded.contains other then some .empty else none

/-- An attribute of a field. -/
def attribute? (f : Field) (name : List Char) : Option Field :=
  match f with
  | .level l =>
    match String.ofList name with
    | "name" => some (.text l.name.toList)
    | "no" => some (.number l.weight)
    | "icon" => some (.text l.icon.toList)
    | _ => none
  | .number n =>
    match String.ofList name with
    | "real" | "numerator" => some (.number n)
    | "imag" => some (.number 0)
    | "denominator" => some (.number 1)
    | _ => none
  | .empty => some .empty
  | _ => none

/-- An item of a field, by a number or by a name. -/
def item? (f : Field) (key : List Char) : Option Field :=
  match f with
  | .text cs =>
    if key.isEmpty then none else ((Text.valueOf? key).bind fun n => cs[n]?).map fun c => .text [c]
  | .labels component =>
    if key == "component".toList then some (.text component.toList) else none
  | .empty => if key.isEmpty then none else some .empty
  | _ => none

/-- The field that the name of a slot leads to: a first name, attributes behind `.` and items
between brackets. -/
def follow? (f : Field) : (fuel : Nat) → List Char → Option Field
  | _, [] => some f
  | 0, _ => none
  | fuel + 1, '.' :: rest =>
    let name := rest.takeWhile fun c => c != '.' && c != '['
    if name.isEmpty then none
    else (f.attribute? name).bind fun g => g.follow? fuel (rest.drop name.length)
  | fuel + 1, '[' :: rest =>
    let key := rest.takeWhile (· != ']')
    match rest.drop key.length with
    | ']' :: rest => (f.item? key).bind fun g => g.follow? fuel rest
    | _ => none
  | _, _ => none

/-- The field of a record that the name of a slot leads to. -/
def ofPath? (r : Record) (path : List Char) : Option Field :=
  let first := path.takeWhile fun c => c != '.' && c != '['
  (ofName? r first).bind fun f => f.follow? path.length (path.drop first.length)

/-- The quoted form of a field. -/
def quoted : Field → List Char
  | .text cs => (Text.quoted (String.ofList cs)).toList
  | .number n => Text.digits n
  | .level l => ("(name=" ++ Text.quoted l.name ++ ", no=" ++ Text.decimal l.weight ++ ", icon=" ++
      Text.quoted l.icon ++ ")").toList
  | .labels component => ("\x7b'component': " ++ Text.quoted component ++ "\x7d").toList
  | .empty => []

/-- A character as itself or as its escape, if it is not an ASCII one. -/
def asciiForm (c : Char) : List Char :=
  let n := c.toNat
  if n < 0x80 then [c]
  else if n < 0x100 then '\\' :: 'x' :: Text.hex false 2 n
  else if n < 0x10000 then '\\' :: 'u' :: Text.hex false 4 n
  else '\\' :: 'U' :: Text.hex false 8 n

/-- A field after a conversion: to its quoted form, to that in ASCII, or to its plain text. -/
def convert? (f : Field) : Option Char → Option Field
  | none => some f
  | some 'r' => some (.text f.quoted)
  | some 'a' => some (.text (f.quoted.flatMap asciiForm))
  | some 's' => match f with
    | .text cs => some (.text cs)
    | f => some (.text f.quoted)
  | some _ => none

/-- A field as described. -/
def show? (f : Field) (description : List Char) : Option (List Char) :=
  match f with
  | .text cs => (Text.Fit.parse? description).bind (·.text? cs)
  | .number n => (Text.Fit.parse? description).bind (·.nat? n)
  | .level l => (Text.Fit.parse? description).bind (·.text? l.name.toList)
  | .labels _ => if description.isEmpty then some f.quoted else none
  | .empty => some []

end Field

/-- Fills a slot with a field of a record; slots in its description are filled first. -/
def Slot.fill? (r : Record) : (depth : Nat) → Slot → Option (List Char)
  | 0, _ => none
  | depth + 1, s => do
    let field ← Field.ofPath? r s.name
    let field ← field.convert? s.conversion
    let description ←
      if s.description.contains '\x7b' then do
        let parts ← Part.ofTemplate? s.description
        let shown ← parts.mapM fun
          | .text cs => some cs
          | .slot inner => Slot.fill? r depth inner
        pure shown.flatten
      else some s.description
    field.show? description

end Transplant.Log
