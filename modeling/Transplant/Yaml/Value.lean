import Transplant.Data.Basic
import Transplant.Number.Real
import Transplant.Yaml.Tag

/-!
# Values of scalars

The value of a scalar by its type: numbers in several bases, points in time, bytes and words.
-/

namespace Transplant.Yaml

/-- The parts of a number between colons. -/
def sixtieths (cs : List Char) : List String :=
  (Text.splitOn ':' cs).map String.ofList

/-- The whole number of a scalar. -/
def intOf (cs : List Char) : Except ScalarFault Int :=
  let cs := cs.filter (· != '_')
  let sign : Int := if cs.head? == some '-' then -1 else 1
  let numeral (base : Nat) (ds : List Char) : Except ScalarFault Int :=
    (Numeral.parseIn base (String.ofList ds)).mapError .numeral
  let size : Except ScalarFault Int := match Tag.dropSign cs with
    | [] => .error .noDigits
    | ['0'] => .ok 0
    | '0' :: 'b' :: ds => numeral 2 ds
    | '0' :: 'x' :: ds => numeral 16 ds
    | '0' :: ds => numeral 8 ('0' :: ds)
    | ds => do
      let parts ← (sixtieths ds).mapM fun part => (Numeral.parse part).mapError ScalarFault.numeral
      return parts.foldl (fun n part => 60 * n + part) 0
  size.map fun n => sign * n

/-- The floating-point number of a text. -/
def realOf (s : String) : Except ScalarFault Binary64 :=
  match Binary64.parse? s with
  | some x => .ok x
  | none => .error (.real s.toList)

/-- The sum of parts, the last first, of which each counts sixty times as much as the one before. -/
def sumOfSixtieths (parts : List Binary64) : Binary64 :=
  (parts.foldr (fun x (sum, unit) => (sum.add (x.mul (.ofInt unit)), 60 * unit))
    (Binary64.ofInt 0, (1 : Int))).1

/-- The greatest number of parts of a sum; the unit of one more part is above every floating-point number. -/
def longestSum : Nat := 174

/-- The floating-point number of a scalar. -/
def floatOf (cs : List Char) : Except ScalarFault Binary64 := do
  let cs := (Text.lower (String.ofList (cs.filter (· != '_')))).toList
  let negative := cs.head? == some '-'
  let body := Tag.dropSign cs
  if cs.isEmpty then .error .noDigits
  let size ←
    if body == ".inf".toList then pure (.infinite false)
    else if body == ".nan".toList then pure .nan
    else match sixtieths body with
      | [_] => realOf (String.ofList body)
      | parts => do
        let parts ← parts.mapM realOf
        if parts.length > longestSum then .error (.overflow "int too large to convert to float")
        pure (sumOfSixtieths parts)
  return if negative then size.negate else size

/-- The number written in some digits. -/
def small (cs : List Char) : Nat := (Text.asciiNumber? cs).getD 0

/-- The greatest distance from UTC is less than a day; the words for another one, given in seconds. -/
def offsetFault (seconds : Int) : String :=
  let days := seconds.fdiv 86400
  let rest := seconds.fmod 86400
  "offset must be a timedelta strictly between -timedelta(hours=24) and timedelta(hours=24), not " ++
    "datetime.timedelta(days=" ++ Text.signed days ++
    (if rest == 0 then "" else ", seconds=" ++ Text.signed rest) ++ ")."

/-- The day or point in time of a scalar. -/
def timeOf (cs : List Char) : Except ScalarFault Data :=
  match Tag.timeParts? cs with
  | none => .error .noTime
  | some p =>
    let date : Date := ⟨small p.year, small p.month, small p.day⟩
    let day : Except ScalarFault Unit :=
      if date.year == 0 then .error (.outOfRange "year 0 is out of range")
      else if date.month < 1 || date.month > 12 then .error (.outOfRange "month must be in 1..12")
      else if !date.isValid then .error (.outOfRange "day is out of range for month")
      else .ok ()
    match p.time with
    | none => day.map fun _ => .date date
    | some (h, m, s) => do
      let micro := small ((p.fraction ++ List.replicate 6 '0').take 6)
      let offset : Option Int := p.zone.map fun
        | none => 0
        | some (west, hours, minutes) =>
          let n : Int := (small hours * 60 + small minutes) * 60
          if west then -n else n
      match offset with
      | some n => if n.natAbs ≥ 86400 then .error (.outOfRange (offsetFault n))
      | none => pure ()
      day
      if small h > 23 then .error (.outOfRange "hour must be in 0..23")
      if small m > 59 then .error (.outOfRange "minute must be in 0..59")
      if small s > 59 then .error (.outOfRange "second must be in 0..59")
      return .timestamp ⟨date, small h, small m, small s, micro, offset⟩

/-- The value of a base-64 digit. -/
def base64Value? (c : Char) : Option Nat :=
  if 'A' ≤ c && c ≤ 'Z' then some (c.toNat - 65)
  else if 'a' ≤ c && c ≤ 'z' then some (c.toNat - 71)
  else if '0' ≤ c && c ≤ '9' then some (c.toNat + 4)
  else if c == '+' then some 62
  else if c == '/' then some 63
  else none

/-- The bytes of groups of base-64 digits; the last group may be short. -/
def base64Bytes : List Nat → Option (List UInt8)
  | a :: b :: c :: d :: rest => (base64Bytes rest).map fun bs =>
      let n := ((a * 64 + b) * 64 + c) * 64 + d
      (n / 65536).toUInt8 :: (n / 256).toUInt8 :: n.toUInt8 :: bs
  | [a, b, c] =>
    let n := (a * 64 + b) * 64 + c
    some [(n / 1024).toUInt8, (n / 4).toUInt8]
  | [a, b] => some [((a * 64 + b) / 16).toUInt8]
  | [_] => none
  | [] => some []

/-- The digits of a base-64 text up to its end, in which other characters do not count. The text ends
with the `=` that fills up a group of four. -/
def base64Digits : (digits padding : Nat) → List Char → List Nat × Bool
  | _, _, [] => ([], false)
  | digits, padding, c :: cs =>
    if c == '=' then
      if digits % 4 ≥ 2 then
        if digits % 4 + padding + 1 ≥ 4 then ([], true) else base64Digits digits (padding + 1) cs
      else base64Digits digits padding cs
    else match base64Value? c with
      | some d =>
        let (ds, ends) := base64Digits (digits + 1) 0 cs
        (d :: ds, ends)
      | none => base64Digits digits padding cs

/-- The bytes of a base-64 text. -/
def binaryOf (cs : List Char) : Except Base64Fault (List UInt8) :=
  let isForeign (c : Char) : Bool := c.toNat > 127
  let before := cs.takeWhile fun c => !isForeign c
  let foreign := (cs.drop before.length).takeWhile isForeign
  let (ds, ends) := base64Digits 0 0 cs
  if !foreign.isEmpty then .error (.characters foreign before.length)
  else if !ends && ds.length % 4 == 1 then .error (.length ds.length)
  else if !ends && ds.length % 4 != 0 then .error .padding
  else match base64Bytes ds with
    | some bs => .ok bs
    | none => .error .padding

/-- The text of a scalar. -/
def textOf (s : Scalar) : Data :=
  match s.halves with
  | some points => .halves points
  | none => .text (String.ofList s.text)

/-- The value of a scalar of some type that starts at a mark. -/
def scalarValue (tag : Tag) (s : Scalar) (mark : Mark) : Except Fault Data :=
  match tag with
  | .null => .ok .null
  | .bool =>
    let word := Text.lower (String.ofList s.text)
    match Tag.boolWords.find? fun (w, _) => w == word with
    | some (_, b) => .ok (.bool b)
    | none => .error (.scalar (.noWord word))
  | .int => ((intOf s.text).map .int).mapError .scalar
  | .float => ((floatOf s.text).map .real).mapError .scalar
  | .binary => ((binaryOf s.text).map .bytes).mapError fun why => .found (.base64 why) mark none
  | .timestamp => (timeOf s.text).mapError .scalar
  | .text => .ok (textOf s)
  | tag => .error (.found (.unknownTag tag.fullName) mark none)

end Transplant.Yaml
