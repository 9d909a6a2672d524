import Transplant.Number.Numeral
import Transplant.Yaml.Spelling

/-!
# Outlines

Documents to be written: named fields that hold scalars, lists of texts and further fields. A field
stands on a line of its own, two spaces deeper than the one it belongs to; the items of a list stand
no deeper than the name of the list.
-/

namespace Transplant.Yaml

/-- A document to be written. The names of its fields are plain words. -/
inductive Outline where
  | null
  | bool (b : Bool)
  | int (n : Int)
  | text (s : String)
  | items (xs : List String)
  | fields (entries : List (String × Outline))

namespace Outline

/-- The outline of a text that may be missing. -/
def ofText? : Option String → Outline
  | none => .null
  | some s => .text s

/-- The number of spaces by which a field stands deeper than the one it belongs to. -/
def step : Nat := 2

/-- Writes the items of a list, each on a line of its own. -/
def renderItems (indent : Nat) (xs : List String) : List Char :=
  xs.flatMap fun x =>
    Spelling.newLine indent ++ "- ".toList ++ spell (indent + step) (indent + step) x.toList

mutual

/-- Writes what stands behind the name of a field at an indentation. The column is that of the
character behind the name. -/
def renderValue (indent column : Nat) : Outline → List Char
  | .null => " null".toList
  | .bool b => if b then " true".toList else " false".toList
  | .int n => ' ' :: (Text.signed n).toList
  | .text s => ' ' :: spell (indent + step) (column + 1) s.toList
  | .items xs => if xs.isEmpty then " []".toList else renderItems indent xs
  | .fields entries =>
    if entries.isEmpty then " \x7b\x7d".toList else renderFields (indent + step) entries

/-- Writes fields, each on a line of its own. -/
def renderFields (indent : Nat) : List (String × Outline) → List Char
  | [] => []
  | (name, value) :: rest =>
    Spelling.newLine indent ++ name.toList ++ ':' :: renderValue indent (indent + name.length + 1) value
      ++ renderFields indent rest

end

/-! ## Documents -/

mutual

/-- The numbers in an outline. -/
def numbers : Outline → List Int
  | .int n => [n]
  | .fields entries => numbersIn entries
  | _ => []

/-- The numbers in some fields. -/
def numbersIn : List (String × Outline) → List Int
  | [] => []
  | (_, value) :: rest => numbers value ++ numbersIn rest

end

/-- Checks that each number in some fields can be written. -/
def check (entries : List (String × Outline)) : Except Numeral.Fault Unit :=
  (numbersIn entries).forM fun n => (Numeral.write n).map fun _ => ()

/-- The text of a document made of fields, the numbers of which can be written. -/
def document (entries : List (String × Outline)) : String :=
  String.ofList ((renderFields 0 entries).drop 1 ++ ['\n'])

end Outline

end Transplant.Yaml
