import Transplant.Number.Real
import Transplant.Text.Utf8

/-!
# Dates and timestamps

Days of the Gregorian calendar and points in time with an optional distance from UTC. They are read
from ISO 8601 text or from a count of seconds since 1970 (of milliseconds, when the count is large),
and written as ISO 8601 text.
-/

namespace Transplant

/-- A day of the Gregorian calendar. -/
structure Date where
  year : Nat
  month : Nat
  day : Nat
deriving DecidableEq, Repr, Inhabited

/-- A point in time; `offset` is the distance from UTC in seconds, if one is known. -/
structure Timestamp where
  date : Date
  hour : Nat
  minute : Nat
  second : Nat
  micro : Nat
  offset : Option Int
deriving DecidableEq, Repr, Inhabited

/-- Why a text or number is no point in time. -/
inductive DateFault where
  | tooShort
  | yearCharacter
  | monthCharacter
  | dayCharacter
  | separator
  | monthRange
  | dayRange
  | yearZero
  | trailing
  | tooEarly
  | tooLate
  | notANumber
deriving DecidableEq, Repr

/-- The words for a fault. -/
def DateFault.message : DateFault → String
  | .tooShort => "input is too short"
  | .yearCharacter => "invalid character in year"
  | .monthCharacter => "invalid character in month"
  | .dayCharacter => "invalid character in day"
  | .separator => "invalid date separator, expected `-`"
  | .monthRange => "month value is outside expected range of 1-12"
  | .dayRange => "day value is outside expected range"
  | .yearZero => "year 0 is out of range"
  | .trailing => "unexpected extra characters at the end of the input"
  | .tooEarly => "dates before 0000 are not supported as unix timestamps"
  | .tooLate => "dates after 9999 are not supported as unix timestamps"
  | .notANumber => "NaN values not permitted"

namespace Date

/-- Whether a year has a 29th of February. -/
def isLeap (year : Nat) : Bool :=
  year % 4 == 0 && (year % 100 != 0 || year % 400 == 0)

/-- The number of days of a month, none for a number that is no month. -/
def daysIn (year month : Nat) : Nat :=
  match month with
  | 1 | 3 | 5 | 7 | 8 | 10 | 12 => 31
  | 4 | 6 | 9 | 11 => 30
  | 2 => if isLeap year then 29 else 28
  | _ => 0

/-- Whether the numbers name a day. -/
def isValid (d : Date) : Bool :=
  1 ≤ d.year && d.year ≤ 9999 && 1 ≤ d.month && d.month ≤ 12 && 1 ≤ d.day &&
    d.day ≤ daysIn d.year d.month

/-- The number of days from 1970-01-01 to a day. -/
def toDays (d : Date) : Int :=
  let y : Int := if d.month ≤ 2 then (d.year : Int) - 1 else d.year
  let era := y.fdiv 400
  let yearOfEra := y - era * 400
  let shifted : Int := if d.month > 2 then (d.month : Int) - 3 else (d.month : Int) + 9
  let dayOfYear := (153 * shifted + 2).fdiv 5 + d.day - 1
  let dayOfEra := yearOfEra * 365 + yearOfEra.fdiv 4 - yearOfEra.fdiv 100 + dayOfYear
  era * 146097 + dayOfEra - 719468

/-- The day that lies a number of days after 1970-01-01. -/
def ofDays (n : Int) : Date :=
  let z := n + 719468
  let era := z.fdiv 146097
  let dayOfEra := z - era * 146097
  let yearOfEra := (dayOfEra - dayOfEra.fdiv 1460 + dayOfEra.fdiv 36524 - dayOfEra.fdiv 146096).fdiv 365
  let dayOfYear := dayOfEra - (365 * yearOfEra + yearOfEra.fdiv 4 - yearOfEra.fdiv 100)
  let shifted := (5 * dayOfYear + 2).fdiv 153
  let day := dayOfYear - (153 * shifted + 2).fdiv 5 + 1
  let month := if shifted < 10 then shifted + 3 else shifted - 9
  let year := yearOfEra + era * 400 + (if month ≤ 2 then 1 else 0)
  ⟨year.toNat, month.toNat, day.toNat⟩

/-- The ISO 8601 text of a day. -/
def text (d : Date) : String :=
  Text.padded 4 d.year ++ "-" ++ Text.padded 2 d.month ++ "-" ++ Text.padded 2 d.day

end Date

/-! ## Reading text -/

/-- The day in the first ten bytes of a text, and the rest. The year zero counts as one here. -/
def Date.read (cs : List Char) : Except DateFault (Date × List Char) :=
  let bytes := cs.flatMap fun c => List.replicate c.utf8Size c
  match bytes with
  | y1 :: y2 :: y3 :: y4 :: s1 :: m1 :: m2 :: s2 :: d1 :: d2 :: _ =>
    match Text.asciiNumber? [y1, y2, y3, y4] with
    | none => .error .yearCharacter
    | some year =>
      if s1 != '-' then .error .separator
      else match Text.asciiNumber? [m1, m2] with
        | none => .error .monthCharacter
        | some month =>
          if s2 != '-' then .error .separator
          else match Text.asciiNumber? [d1, d2] with
            | none => .error .dayCharacter
            | some day =>
              if month < 1 || month > 12 then .error .monthRange
              else if day < 1 || day > Date.daysIn year month then .error .dayRange
              else .ok (⟨year, month, day⟩, cs.drop 10)
  | _ => .error .tooShort

/-- A distance from UTC in seconds, read to the end of a text: `Z`, `+hh:mm` or `+hhmm`. -/
def readOffset (cs : List Char) : Option Int :=
  match cs with
  | ['Z'] | ['z'] => some 0
  | sign :: h1 :: h2 :: rest =>
    let minutes := match rest with
      | [':', a, b] | [a, b] => Text.asciiNumber? [a, b]
      | _ => none
    let side : Option Int := if sign == '+' then some 1
      else if sign == '-' || sign == '\u2212' then some (-1) else none
    match side, Text.asciiNumber? [h1, h2], minutes with
    | some side, some h, some m => if h ≤ 23 && m ≤ 59 then some (side * ((h * 60 + m) * 60 : Nat)) else none
    | _, _, _ => none
  | _ => none

/-- The end of a timestamp: nothing, or a distance from UTC. -/
def readOffset? (cs : List Char) : Option (Option Int) :=
  if cs.isEmpty then some none else (readOffset cs).map some

/-- A time of day and a distance from UTC, read to the end of a text. Seconds may be missing, and
of their fraction six digits count. -/
def readTime (date : Date) (cs : List Char) : Option Timestamp :=
  match cs with
  | h1 :: h2 :: ':' :: m1 :: m2 :: rest =>
    match Text.asciiNumber? [h1, h2], Text.asciiNumber? [m1, m2] with
    | some hour, some minute =>
      if hour > 23 || minute > 59 then none
      else match rest with
        | ':' :: s1 :: s2 :: rest =>
          match Text.asciiNumber? [s1, s2] with
          | none => none
          | some second =>
            if second > 59 then none
            else match rest with
              | dot :: rest' =>
                if dot == '.' || dot == ',' then
                  let fraction := rest'.takeWhile fun c => (Text.asciiDigitValue? c).isSome
                  let micro := Text.asciiNumber? ((fraction ++ List.replicate 6 '0').take 6)
                  if fraction.isEmpty then none
                  else (readOffset? (rest'.drop fraction.length)).map
                    (⟨date, hour, minute, second, micro.getD 0, ·⟩)
                else (readOffset? rest).map (⟨date, hour, minute, second, 0, ·⟩)
              | [] => some ⟨date, hour, minute, second, 0, none⟩
        | rest => (readOffset? rest).map (⟨date, hour, minute, 0, 0, ·⟩)
    | _, _ => none
  | _ => none

namespace Timestamp

/-- A count beyond this is of milliseconds. -/
def millisecondsFrom : Nat := 20000000000

/-- The point in time a number of seconds and microseconds after 1970, in UTC. -/
def ofSeconds (seconds : Int) (micro : Nat) : Except DateFault Timestamp :=
  let s := seconds + (micro / 1000000 : Nat)
  if s < -62167219200 then .error .tooEarly
  else if s > 253402300799 then .error .tooLate
  else
    let days := s.fdiv 86400
    let rest := (s.fmod 86400).toNat
    .ok ⟨Date.ofDays days, rest / 3600, rest / 60 % 60, rest % 60, micro % 1000000, some 0⟩

/-- The point in time of a count of seconds or milliseconds. -/
def ofCount (n : Int) : Except DateFault Timestamp :=
  if n.natAbs ≤ millisecondsFrom then ofSeconds n 0
  else ofSeconds (n.fdiv 1000) ((n.fmod 1000).toNat * 1000)

/-- The point in time of a count with a fraction, which is rounded to microseconds. -/
def ofReal (x : Binary64) : Except DateFault Timestamp :=
  match x.ratio? with
  | some (n, d) =>
    let unit := if n.natAbs > millisecondsFrom * d then 1000 else 1
    match (Binary64.ofRatio (n < 0) n.natAbs (d * unit)).floor? with
    | some (seconds, rest, den) =>
      let millionths := (Binary64.ofRatio false rest den).mul (.ofInt 1000000)
      match millionths.ratio? with
      | some (k, l) => ofSeconds seconds ((2 * k.toNat + l) / (2 * l))
      | none => .error .notANumber
    | none => .error .notANumber
  | none =>
    match x with
    | .infinite negative => if negative then .error .tooEarly else .error .tooLate
    | _ => .error .notANumber

/-- The bound of the digits of a count before its point. -/
def countBound : Nat := 9223372036854775808

/-- The digits of a count before its point, behind an optional sign. -/
def wholePart (cs : List Char) : List Char :=
  let unsigned := match cs with
    | '-' :: ds => ds
    | '+' :: ds => ds
    | ds => ds
  unsigned.takeWhile (· != '.')

/-- The count written in a text, as a whole number or with a point. -/
def count? (cs : List Char) : Option (Int ⊕ Binary64) :=
  let whole := wholePart cs
  let size := if whole.isEmpty then some 0 else (Text.asciiNumber? whole).filter (· < countBound)
  size.bind fun n =>
    if cs.contains '.' then (Binary64.ofDecimal? cs).map .inr
    else if whole.isEmpty then none
    else some (.inl (if cs.head? == some '-' then -(n : Int) else n))

/-- Why a text is no point in time: because of what stands in the place of a day, or because there is no
such time. -/
inductive TextFault where
  | date (why : DateFault)
  | time (why : DateFault)
deriving DecidableEq, Repr

/-- A point in time whose year can be told. -/
def checkYear (t : Timestamp) : Except DateFault Timestamp :=
  if t.date.year == 0 then .error .yearZero else .ok t

/-- The day written in a text as the point in time at which it starts. -/
def ofDay (cs : List Char) : Except TextFault Timestamp :=
  match Date.read cs with
  | .ok (date, []) => (checkYear ⟨date, 0, 0, 0, 0, none⟩).mapError .time
  | .ok (_, _ :: _) => .error (.date .trailing)
  | .error why => .error (.date why)

/-- The day and the time written in a text. -/
def full? (cs : List Char) : Option Timestamp :=
  match Date.read cs with
  | .ok (date, sep :: rest) =>
    if sep == 'T' || sep == 't' || sep == ' ' || sep == '_' then readTime date rest else none
  | _ => none

/-- The point in time written in a text: a day and a time, a count, or a day alone. A count with a point
that is out of range is no day either. -/
def ofText (s : String) : Except TextFault Timestamp :=
  let cs := s.toList
  match full? cs with
  | some t => (checkYear t).mapError .time
  | none =>
    match count? cs with
    | some (.inl n) =>
      match ofCount n with
      | .ok t => (checkYear t).mapError .time
      | .error why => .error (.date why)
    | some (.inr x) =>
      match ofReal x with
      | .ok t => (checkYear t).mapError .time
      | .error _ => ofDay cs
    | none => ofDay cs

/-- The microseconds from 1970 in UTC, of a point in time with a known distance from UTC. -/
def instant? (t : Timestamp) : Option Int :=
  t.offset.map fun off =>
    ((t.date.toDays * 86400 + (t.hour * 3600 + t.minute * 60 + t.second : Nat) - off) * 1000000) + t.micro

/-- Whether two points in time are the same; one with a known distance from UTC never equals one
without. -/
def same (t u : Timestamp) : Bool :=
  match t.instant?, u.instant? with
  | some a, some b => a == b
  | none, none => t == u
  | _, _ => false

/-- The text of a distance from UTC. -/
def offsetText (seconds : Int) : String :=
  let n := seconds.natAbs
  let sign := if seconds < 0 then "-" else "+"
  let base := sign ++ Text.padded 2 (n / 3600) ++ ":" ++ Text.padded 2 (n / 60 % 60)
  if n % 60 == 0 then base else base ++ ":" ++ Text.padded 2 (n % 60)

/-- The ISO 8601 text of a point in time; microseconds are written when there are any. -/
def text (t : Timestamp) : String :=
  t.date.text ++ "T" ++ Text.padded 2 t.hour ++ ":" ++ Text.padded 2 t.minute ++ ":" ++
    Text.padded 2 t.second ++ (if t.micro == 0 then "" else "." ++ Text.padded 6 t.micro) ++
    (match t.offset with
      | none => ""
      | some off => offsetText off)

end Timestamp

end Transplant
