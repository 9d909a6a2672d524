import Transplant.Calendar

/-!
# Plain data

The values that a configuration document or a caller supplies before they are checked: scalars,
sequences and mappings in the order in which they were written. Two scalars are the same
value across number types, as keys and in comparisons. A collection may be among its own parts.
-/

namespace Transplant

/-- A value of plain data. -/
inductive Data where
  | null
  | bool (b : Bool)
  | int (n : Int)
  | real (x : Binary64)
  | text (s : String)
  /-- A text that holds halves of surrogate pairs, by its code points. -/
  | halves (points : List Nat)
  | bytes (bs : List UInt8)
  | date (d : Date)
  | timestamp (t : Timestamp)
  | list (items : List Data)
  | pair (left right : Data)
  | set (items : List Data)
  | map (entries : List (Data × Data))
  /-- A collection on the way from itself to itself, under a number. -/
  | knot (id : Nat) (value : Data)
  /-- The collection with a number, inside itself. -/
  | again (id : Nat) (isMap : Bool)
deriving Repr, Inhabited

namespace Data

/-! ## Collections inside themselves -/

mutual

/-- A value with a whole for each place where the collection with a number stands again. -/
def fill (id : Nat) (whole : Data) : Data → Data
  | .again i isMap => if i == id then whole else .again i isMap
  | .knot i d => .knot i (fill id whole d)
  | .list xs => .list (fillItems id whole xs)
  | .pair x y => .pair (fill id whole x) (fill id whole y)
  | .map es => .map (fillEntries id whole es)
  | d => d

/-- Items with a whole for each place where the collection with a number stands again. -/
def fillItems (id : Nat) (whole : Data) : List Data → List Data
  | [] => []
  | x :: xs => fill id whole x :: fillItems id whole xs

/-- Entries with a whole for each place where the collection with a number stands again. -/
def fillEntries (id : Nat) (whole : Data) : List (Data × Data) → List (Data × Data)
  | [] => []
  | (k, v) :: es => (k, fill id whole v) :: fillEntries id whole es

end

/-- A value whose parts can be taken by themselves. -/
def opened : Data → Data
  | .knot id d => fill id (.knot id d) d
  | d => d

/-! ## Comparing -/

/-- The whole number that a boolean or a number stands for. -/
def whole? : Data → Option Int
  | .bool b => some (if b then 1 else 0)
  | .int n => some n
  | .real x => x.toInt?
  | _ => none

mutual

/-- Whether two values are the same; mappings and sets compare without regard to order. -/
def same (a b : Data) : Bool :=
  match a, b with
  | .null, .null => true
  | .text s, .text t => s == t
  | .halves s, .halves t => s == t
  | .bytes s, .bytes t => s == t
  | .date d, .date e => d == e
  | .timestamp t, .timestamp u => t.same u
  | .list xs, .list ys => sameItems xs ys
  | .pair x y, .pair u v => same x u && same y v
  | .set xs, .set ys => xs.length == ys.length && subset xs ys
  | .map xs, .map ys => xs.length == ys.length && sameEntries xs ys
  | .real x, .real y => x.same y
  | x, y =>
    match x.whole?, y.whole? with
    | some m, some n => m == n
    | _, _ => false

/-- Whether two sequences have the same values in the same places. -/
def sameItems (xs ys : List Data) : Bool :=
  match xs, ys with
  | [], [] => true
  | x :: xs, y :: ys => same x y && sameItems xs ys
  | _, _ => false

/-- Whether each value of a sequence is in another one. -/
def subset (xs ys : List Data) : Bool :=
  match xs with
  | [] => true
  | x :: xs => ys.any (fun y => same x y) && subset xs ys

/-- Whether each entry of a mapping is in another one. -/
def sameEntries (xs ys : List (Data × Data)) : Bool :=
  match xs with
  | [] => true
  | (k, v) :: xs => ys.any (fun y => same k y.1 && same v y.2) && sameEntries xs ys

end

/-- The value under a text key. -/
def lookup (entries : List (Data × Data)) (key : String) : Option Data :=
  (entries.find? fun e => match e.1 with
    | .text s => s == key
    | _ => false).map (·.2)

/-- A mapping from texts. -/
def ofFields (fields : List (String × Data)) : Data :=
  .map (fields.map fun (k, v) => (.text k, v))

/-- A list of texts. -/
def ofTexts (items : List String) : Data :=
  .list (items.map .text)

/-- A text, or null for none. -/
def ofText? (s : Option String) : Data :=
  s.elim .null .text

/-- Whether a value counts as empty: null, false, a zero, or a text or collection without content. -/
def isEmpty : Data → Bool
  | .null => true
  | .bool b => !b
  | .int n => n == 0
  | .real x => x.isZero
  | .text s => s.isEmpty
  | .bytes bs => bs.isEmpty
  | .list xs => xs.isEmpty
  | .set xs => xs.isEmpty
  | .map es => es.isEmpty
  | .halves _ | .pair .. | .date _ | .timestamp _ | .knot .. | .again .. => false

/-- The name of a value's type in messages. -/
def typeName : Data → String
  | .null => "NoneType"
  | .bool _ => "bool"
  | .int _ => "int"
  | .real _ => "float"
  | .text _ | .halves _ => "str"
  | .bytes _ => "bytes"
  | .date _ => "datetime.date"
  | .timestamp _ => "datetime.datetime"
  | .list _ => "list"
  | .pair .. => "tuple"
  | .set _ => "set"
  | .map _ => "dict"
  | .knot _ d => d.typeName
  | .again _ isMap => if isMap then "dict" else "list"

/-- The name of a value's type without the module it belongs to. -/
def shortTypeName : Data → String
  | .date _ => "date"
  | .timestamp _ => "datetime"
  | d => d.typeName

end Data

end Transplant
