import Transplant.Text.Digit
import Transplant.Text.Split
import Transplant.Text.Lower
import Transplant.Log.Level

/-!
# Colours

Styles and colours by the names that tags give them, and the escape sequences that switch them on.
A colour is one of sixteen names, a number below 256, three such numbers, or three or six hexadecimal
digits; a name in capitals is the background.
-/

namespace Transplant.Log

/-- What a tag switches on: the colours of a record's level, or the style of a sequence. -/
inductive Colour where
  | ofLevel
  | sequence (parameters : List Char)
deriving DecidableEq, Repr

namespace Colour

/-- The escape sequence with some parameters. -/
def escape (parameters : List Char) : List Char :=
  '\x1b' :: '[' :: parameters ++ ['m']

/-- The sequence that switches everything off. -/
def reset : List Char := escape ['0']

/-- The styles, by letter and by name. -/
def styles : List (String × Nat) :=
  [ ("b", 1), ("bold", 1), ("d", 2), ("dim", 2), ("n", 22), ("normal", 22), ("h", 8), ("hide", 8)
  , ("i", 3), ("italic", 3), ("l", 5), ("blink", 5), ("s", 9), ("strike", 9), ("u", 4)
  , ("underline", 4), ("v", 7), ("reverse", 7) ]

/-- The eight basic colours, by letter and by name. -/
def basic : List (String × Nat) :=
  [ ("k", 0), ("black", 0), ("r", 1), ("red", 1), ("g", 2), ("green", 2), ("y", 3), ("yellow", 3)
  , ("e", 4), ("blue", 4), ("m", 5), ("magenta", 5), ("c", 6), ("cyan", 6), ("w", 7), ("white", 7) ]

/-- The sixteen colours with the distance of each from the first one. -/
def named : List (String × Nat) :=
  basic ++ basic.map fun (name, n) => ((if name.length == 1 then "l" else "light-") ++ name, n + 60)

/-- The distance of a colour from the first one. -/
def named? (name : List Char) : Option Nat :=
  (named.find? fun c => c.1.toList == name).map (·.2)

/-- The distance of a colour in capitals from the first one. -/
def capital? (name : List Char) : Option Nat :=
  (named.find? fun c => c.1.toList.map Char.toUpper == name).map (·.2)

/-- Whether some digits make a number below 256. -/
def isByte (cs : List Char) : Bool :=
  !cs.isEmpty && (Text.valueOf? cs).any (· < 256)

/-- Three pairs of hexadecimal digits as numbers; of three single digits each counts for both of a pair. -/
def hexTriple? (cs : List Char) : Option (List Nat) :=
  match cs.mapM Text.hexValue? with
  | some [a, b, c] => some [17 * a, 17 * b, 17 * c]
  | some [a, b, c, d, e, f] => some [16 * a + b, 16 * c + d, 16 * e + f]
  | _ => none

/-- The parameters for a colour written in full, behind those that say where it goes. -/
def explicit? (place : List Char) (name : List Char) : Option (List Char) :=
  let commas := name.filter (· == ',')
  if isByte name then some (place ++ ";5;".toList ++ name)
  else if name.head? == some '#' then
    (hexTriple? name.tail).map fun ns =>
      place ++ ";2".toList ++ ns.flatMap fun n => ';' :: Text.digits n
  else if commas.length == 2 && (Text.splitOn ',' name).all isByte then
    some (place ++ ";2;".toList ++ name.map fun c => if c == ',' then ';' else c)
  else none

/-- What a tag with a name switches on. -/
def ofName? (name : List Char) : Option Colour :=
  let numbered (first : Nat) (n : Option Nat) : Option Colour :=
    n.map fun n => .sequence (Text.digits (first + n))
  if name == "level".toList || name == "lvl".toList then some .ofLevel
  else match (styles.find? fun s => s.1.toList == name) with
    | some (_, n) => some (.sequence (Text.digits n))
    | none =>
      match name with
      | 'f' :: 'g' :: ' ' :: colour =>
        (numbered 30 (named? (Text.lower (String.ofList colour)).toList)).or
          ((explicit? "38".toList colour).map .sequence)
      | 'b' :: 'g' :: ' ' :: colour =>
        (numbered 40 (capital? (Text.upper (String.ofList colour)).toList)).or
          ((explicit? "48".toList colour).map .sequence)
      | name => (numbered 30 (named? name)).or (numbered 40 (capital? name))

/-- The escape sequences of a level. -/
def levelSequences : Level → List Char
  | .trace => escape "36".toList ++ escape "1".toList
  | .debug => escape "34".toList ++ escape "1".toList
  | .info => escape "1".toList
  | .success => escape "32".toList ++ escape "1".toList
  | .warning => escape "33".toList ++ escape "1".toList
  | .error => escape "31".toList ++ escape "1".toList
  | .critical => escape "41".toList ++ escape "1".toList

/-- The escape sequences that switch a colour on for records of a level. -/
def sequences (l : Level) : Colour → List Char
  | .ofLevel => levelSequences l
  | .sequence parameters => escape parameters

end Colour

end Transplant.Log
