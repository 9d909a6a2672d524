import Transplant.Data.Basic
import Transplant.Number.Numeral

/-!
# Quoted data

The form in which messages show a value: quoted texts, bracketed collections, and the words
`None`, `True` and `False`. Inside itself a collection is shown by three dots. Of a value with a number that cannot be
written only the type is shown.
-/

namespace Transplant.Data

/-- A distance from UTC as an interval of days and seconds. -/
def quotedOffset (seconds : Int) : String :=
  if seconds == 0 then "datetime.timezone.utc"
  else
    let days := seconds.fdiv 86400
    let rest := seconds.fmod 86400
    let parts := (if days == 0 then [] else ["days=" ++ Text.signed days]) ++
      (if rest == 0 then [] else ["seconds=" ++ Text.signed rest])
    "datetime.timezone(datetime.timedelta(" ++ ", ".intercalate parts ++ "))"

/-- A point in time as its numbers; trailing seconds and microseconds of zero are left out. -/
def quotedTimestamp (t : Timestamp) : String :=
  let tail := if t.micro != 0 then [t.second, t.micro] else if t.second != 0 then [t.second] else []
  let numbers := [t.date.year, t.date.month, t.date.day, t.hour, t.minute] ++ tail
  "datetime.datetime(" ++ ", ".intercalate (numbers.map Text.decimal) ++
    (t.offset.elim "" fun off => ", tzinfo=" ++ quotedOffset off) ++ ")"

/-- The sign for a collection inside itself. -/
def mark : Data → String
  | .map _ | .again _ true => "\x7b...\x7d"
  | _ => "[...]"

mutual

/-- A value inside some collections, given by their numbers, as messages show it. -/
def quotedIn (within : List Nat) : Data → String
  | .null => "None"
  | .bool b => if b then "True" else "False"
  | .int n => Text.signed n
  | .real x => x.text
  | .text s => Text.quoted s
  | .halves points => Text.quotedPoints points
  | .bytes bs => Text.quotedBytes bs
  | .date d => "datetime.date(" ++ ", ".intercalate ([d.year, d.month, d.day].map Text.decimal) ++ ")"
  | .timestamp t => quotedTimestamp t
  | .list xs => "[" ++ ", ".intercalate (quotedItems within xs) ++ "]"
  | .pair x y => "(" ++ quotedIn within x ++ ", " ++ quotedIn within y ++ ")"
  | .set xs =>
    if xs.isEmpty then "set()" else "\x7b" ++ ", ".intercalate (quotedItems within xs) ++ "\x7d"
  | .map es => "\x7b" ++ ", ".intercalate (quotedEntries within es) ++ "\x7d"
  | .knot id d => if within.contains id then d.mark else quotedIn (id :: within) d
  | d => d.mark

/-- The values of a sequence as messages show them. -/
def quotedItems (within : List Nat) : List Data → List String
  | [] => []
  | x :: xs => quotedIn within x :: quotedItems within xs

/-- The entries of a mapping as messages show them. -/
def quotedEntries (within : List Nat) : List (Data × Data) → List String
  | [] => []
  | (k, v) :: es => (quotedIn within k ++ ": " ++ quotedIn within v) :: quotedEntries within es

end

mutual

/-- Whether each number in a value can be written. -/
def isWritable : Data → Bool
  | .int n => (Numeral.write n).isOk
  | .list xs | .set xs => areWritable xs
  | .pair x y => isWritable x && isWritable y
  | .map es => entriesAreWritable es
  | .knot _ d => isWritable d
  | _ => true

/-- Whether each number in the values of a sequence can be written. -/
def areWritable : List Data → Bool
  | [] => true
  | x :: xs => isWritable x && areWritable xs

/-- Whether each number in the entries of a mapping can be written. -/
def entriesAreWritable : List (Data × Data) → Bool
  | [] => true
  | (k, v) :: es => isWritable k && isWritable v && entriesAreWritable es

end

/-- A value as messages show it. -/
def quoted (d : Data) : String :=
  if d.isWritable then quotedIn [] d else "<unprintable " ++ d.shortTypeName ++ " object>"

end Transplant.Data
