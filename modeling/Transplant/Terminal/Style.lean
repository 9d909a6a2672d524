import Transplant.Number.Numeral
import Transplant.Terminal.Palette
import Transplant.Text.Lower

/-!
# Styles

The words that a tag may name a style by: attributes such as `bold`, colours, a background behind `on`,
and a link. Two definitions with the same effect have the same normal form; one that is no style is
its own normal form in small letters. A colour of three numbers that cannot be read is a fault.
-/

namespace Transplant.Terminal

/-- A style: attributes switched on or off, a colour, a background and a link. -/
structure Style where
  attributes : List (String × Bool) := []
  colour : Option String := none
  background : Option String := none
  link : Option String := none
deriving DecidableEq, Repr

namespace Style

/-- The attributes in the order in which they are written. -/
def attributeNames : List String :=
  [ "bold", "dim", "italic", "underline", "blink", "blink2", "reverse", "conceal", "strike"
  , "underline2", "frame", "encircle", "overline" ]

/-- The short names of attributes. -/
def shortNames : List (String × String) :=
  [ ("b", "bold"), ("d", "dim"), ("i", "italic"), ("u", "underline"), ("r", "reverse")
  , ("c", "conceal"), ("s", "strike"), ("uu", "underline2"), ("o", "overline") ]

/-- The attribute with a name. -/
def attribute? (word : String) : Option String :=
  if attributeNames.contains word then some word
  else (shortNames.find? fun s => s.1 == word).map (·.2)

/-- The text between a start and a closing parenthesis. -/
def argument? (start : String) (word : List Char) : Option (List Char) :=
  if start.toList.isPrefixOf word && word.getLast? == some ')' then
    some ((word.drop start.length).dropLast)
  else none

/-- Whether three numbers below 256 are written between commas. With three parts each must be a
numeral. -/
def isTriple (cs : List Char) : Except Numeral.Fault Bool := do
  let parts := Text.splitOn ',' cs
  if parts.length != 3 || !(parts.all fun ds => ds.all Text.isDigit) then return false
  else
    let levels ← parts.mapM fun ds => Numeral.parse (String.ofList ds)
    return levels.all (· < 256)

/-- Whether a word in small letters is a colour: a name, six hexadecimal digits, the number of a
colour, or three numbers. -/
def isColour (word : String) : Except Numeral.Fault Bool :=
  let cs := word.toList
  if word == "default" || palette.contains word
      || (cs.length == 7 && cs.head? == some '#' && cs.tail.all fun c => (Text.hexValue? c).isSome)
      || (argument? "color(" cs).any fun ds => ds.length ≤ 3 && (Text.asciiNumber? ds).any (· < 256) then
    .ok true
  else match argument? "rgb(" cs with
    | some body => isTriple body
    | none => .ok false

/-- The words of a definition. -/
def words (cs : List Char) : List String :=
  ((cs.splitBy fun a b => Text.isBlank a == Text.isBlank b).filter
    fun run => !(run.head?.any Text.isBlank)).map String.ofList

/-- A style with an attribute switched on or off. -/
def set (s : Style) (name : String) (on : Bool) : Style :=
  { s with attributes := (name, on) :: s.attributes.filter (·.1 != name) }

/-- Reads the words of a definition, if they define a style. -/
def ofWords (s : Style) : List String → Except Numeral.Fault (Option Style)
  | [] => .ok (some s)
  | word :: rest =>
    let small := Text.lower word
    match small, rest with
    | "on", colour :: rest => do
      let colour := Text.lower colour
      if ← isColour colour then ofWords { s with background := some colour } rest else return none
    | "not", name :: rest =>
      match attribute? name with
      | some a => ofWords (s.set a false) rest
      | none => .ok none
    | "link", target :: rest => ofWords { s with link := some target } rest
    | _, rest =>
      match attribute? small with
      | some a => ofWords (s.set a true) rest
      | none => do
        if ← isColour small then ofWords { s with colour := some small } rest else return none

/-- The definition of a style in its normal form. -/
def text (s : Style) : String :=
  let shown := attributeNames.filterMap fun name =>
    (s.attributes.find? (·.1 == name)).map fun (_, on) => if on then name else "not " ++ name
  let parts := shown ++ s.colour.toList ++ (s.background.toList.map ("on " ++ ·)) ++
    (s.link.toList.map ("link " ++ ·))
  if parts.isEmpty then "none" else " ".intercalate parts

/-- The normal form of a definition. -/
def normalize (definition : List Char) : Except Numeral.Fault String := do
  let trimmed := Text.trimBy Text.isBlank definition
  if trimmed == "none".toList || definition.isEmpty then return "none"
  else match ← ofWords {} (words definition) with
    | some s => return s.text
    | none => return Text.lower (String.ofList trimmed)

/-- Checks that a definition can be looked up when a text is drawn; it need not be a style. -/
def check (definition : String) : Except Numeral.Fault Unit :=
  (normalize definition.toList).map fun _ => ()

end Style

end Transplant.Terminal
