import Transplant.Yaml.Token.Basic

/-!
# Tags

The type of a node, written in the document or found from the text of a plain scalar: the spellings
of null, booleans, whole and floating-point numbers and timestamps, and the two marks `<<` and `=`.
-/

namespace Transplant.Yaml

/-- The type of a node. -/
inductive Tag where
  | null
  | bool
  | int
  | float
  | binary
  | timestamp
  | orderedMap
  | pairs
  | set
  | text
  | sequence
  | mapping
  | merge
  | default
  | unknown (name : List Char)
deriving DecidableEq, Repr, Inhabited

namespace Tag

/-- The names of the types of the language. -/
def names : List (String × Tag) :=
  [ ("null", .null), ("bool", .bool), ("int", .int), ("float", .float), ("binary", .binary)
  , ("timestamp", .timestamp), ("omap", .orderedMap), ("pairs", .pairs), ("set", .set), ("str", .text)
  , ("seq", .sequence), ("map", .mapping), ("merge", .merge), ("value", .default) ]

/-- What stands before the names of the types of the language. -/
def standard : List Char := "tag:yaml.org,2002:".toList

/-- The type with a full name. -/
def ofName (cs : List Char) : Tag :=
  match names.find? fun (name, _) => standard ++ name.toList == cs with
  | some (_, tag) => tag
  | none => .unknown cs

/-- The full name of a type. -/
def fullName : Tag → List Char
  | .unknown name => name
  | tag => standard ++ (((names.find? fun (_, t) => t == tag).map (·.1)).getD "").toList

/-- Whether a type is one of collections. -/
def isCollection : Tag → Bool
  | .sequence | .mapping | .set | .orderedMap | .pairs => true
  | _ => false

/-! ## Plain scalars -/

/-- Whether a character is an ASCII digit. -/
def isDigit (c : Char) : Bool := '0' ≤ c && c ≤ '9'

/-- Whether a character may stand in a number behind its first digit. -/
def isGrouped (c : Char) : Bool := isDigit c || c == '_'

/-- A text without a sign in front. -/
def dropSign : List Char → List Char
  | '-' :: cs => cs
  | '+' :: cs => cs
  | cs => cs

/-- Whether a text is a number of minutes or seconds below sixty. -/
def isSixtieth : List Char → Bool
  | [a] => isDigit a
  | [a, b] => '0' ≤ a && a ≤ '5' && isDigit b
  | _ => false

/-- Whether a text is a whole number: binary, octal, decimal, hexadecimal or in base sixty. -/
def isInt (cs : List Char) : Bool :=
  match dropSign cs with
  | '0' :: 'b' :: ds => !ds.isEmpty && ds.all fun c => c == '0' || c == '1' || c == '_'
  | '0' :: 'x' :: ds => !ds.isEmpty && ds.all fun c => c == '_' || (Text.hexValue? c).isSome
  | '0' :: ds => ds.all fun c => ('0' ≤ c && c ≤ '7') || c == '_'
  | d :: ds =>
    isDigit d &&
      (match Text.splitOn ':' ds with
      | first :: rest => first.all isGrouped && rest.all isSixtieth
      | [] => false)
  | [] => false

/-- Whether a text is empty or an exponent with its sign. -/
def isExponent : List Char → Bool
  | [] => true
  | e :: sign :: ds =>
    (e == 'e' || e == 'E') && (sign == '-' || sign == '+') && !ds.isEmpty && ds.all isDigit
  | _ => false

/-- Whether a text is a floating-point number. -/
def isFloat (cs : List Char) : Bool :=
  let unsigned := dropSign cs
  let isMark (c : Char) := c == 'e' || c == 'E'
  let words (xs : List String) (s : List Char) := xs.any fun x => x.toList == s
  match cs, unsigned with
  | '.' :: d :: rest, _ =>
    (isDigit d && isExponent (rest.dropWhile isGrouped)) ||
      words [".nan", ".NaN", ".NAN", ".inf", ".Inf", ".INF"] cs
  | _, '.' :: _ => words [".inf", ".Inf", ".INF"] unsigned
  | _, d :: rest =>
    let whole := rest.takeWhile fun c => isGrouped c || c == ':'
    match rest.drop whole.length with
    | '.' :: tail =>
      isDigit d &&
        (match Text.splitOn ':' whole with
        | [_] => isExponent (tail.dropWhile fun c => isGrouped c && !isMark c)
        | first :: rest => first.all isGrouped && rest.all isSixtieth && tail.all isGrouped
        | [] => false)
    | _ => false
  | _, [] => false

/-- A text as groups of digits at most so long, each with the character in front of it. -/
def digitsUpTo (least most : Nat) (cs : List Char) : Option (List Char × List Char) :=
  let ds := cs.takeWhile isDigit
  let n := min ds.length most
  if n < least then none else some (cs.take n, cs.drop n)

/-- The parts of a timestamp: day, time, fraction of the seconds and distance from UTC. -/
structure TimeParts where
  year : List Char
  month : List Char
  day : List Char
  time : Option (List Char × List Char × List Char) := none
  fraction : List Char := []
  zone : Option (Option (Bool × List Char × List Char)) := none

/-- The distance from UTC at the end of a timestamp. -/
def readZone (parts : TimeParts) (cs : List Char) : Option TimeParts :=
  match cs.dropWhile fun c => c == ' ' || c == '\t' with
  | [] => if cs.isEmpty then some parts else none
  | ['Z'] => some { parts with zone := some none }
  | sign :: rest =>
    if sign != '+' && sign != '-' then none
    else do
      let (hours, rest) ← digitsUpTo 1 2 rest
      match rest with
      | [] => some { parts with zone := some (some (sign == '-', hours, [])) }
      | ':' :: rest =>
        let (minutes, rest) ← digitsUpTo 2 2 rest
        if rest.isEmpty then some { parts with zone := some (some (sign == '-', hours, minutes)) } else none
      | _ => none

/-- The time of day in a timestamp. -/
def readTime (parts : TimeParts) (cs : List Char) : Option TimeParts := do
  let blanks := cs.takeWhile fun c => c == ' ' || c == '\t'
  let cs ← match cs with
    | 'T' :: rest | 't' :: rest => some rest
    | _ => if blanks.isEmpty then none else some (cs.drop blanks.length)
  let (hour, cs) ← digitsUpTo 1 2 cs
  match cs with
  | ':' :: cs =>
    let (minute, cs) ← digitsUpTo 2 2 cs
    match cs with
    | ':' :: cs =>
      let (second, cs) ← digitsUpTo 2 2 cs
      let parts := { parts with time := some (hour, minute, second) }
      match cs with
      | '.' :: cs =>
        let fraction := cs.takeWhile isDigit
        readZone { parts with fraction := fraction } (cs.drop fraction.length)
      | cs => readZone parts cs
    | _ => none
  | _ => none

/-- A text without a line feed at its end. -/
def dropFinalBreak (cs : List Char) : List Char :=
  match cs.getLast? with
  | some '\n' => cs.dropLast
  | _ => cs

/-- The parts of a timestamp, behind which a line may end. -/
def timeParts? (text : List Char) : Option TimeParts := do
  let cs := dropFinalBreak text
  let (year, cs) ← digitsUpTo 4 4 cs
  match cs with
  | '-' :: cs =>
    let (month, cs) ← digitsUpTo 1 2 cs
    match cs with
    | '-' :: cs =>
      let (day, cs) ← digitsUpTo 1 2 cs
      if cs.isEmpty then some { year, month, day } else readTime { year, month, day } cs
    | _ => none
  | _ => none

/-- Whether a text is a timestamp; without a time both month and day have two digits. -/
def isTimestamp (cs : List Char) : Bool :=
  (timeParts? cs).any fun p => p.time.isSome || (p.month.length == 2 && p.day.length == 2)

/-- The words for a boolean, each with its value. -/
def boolWords : List (String × Bool) :=
  [ ("yes", true), ("Yes", true), ("YES", true), ("no", false), ("No", false), ("NO", false)
  , ("true", true), ("True", true), ("TRUE", true), ("false", false), ("False", false)
  , ("FALSE", false), ("on", true), ("On", true), ("ON", true), ("off", false), ("Off", false)
  , ("OFF", false) ]

/-- The type of a plain scalar that is more than a line end. -/
def ofLine (cs : List Char) : Tag :=
  let isAny (xs : List String) := xs.any fun x => x.toList == cs
  if isAny (boolWords.map (·.1)) then .bool
  else if isFloat cs then .float
  else if isInt cs then .int
  else if isAny ["<<"] then .merge
  else if isAny ["", "~", "null", "Null", "NULL"] then .null
  else if isTimestamp cs then .timestamp
  else if isAny ["="] then .default
  else .text

/-- The type of a plain scalar, behind which a line may end. -/
def ofPlain (cs : List Char) : Tag :=
  if cs == ['\n'] then .text else ofLine (dropFinalBreak cs)

end Tag

end Transplant.Yaml
