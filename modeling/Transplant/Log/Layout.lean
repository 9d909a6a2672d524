import Transplant.Log.Colour
import Transplant.Log.Field
import Transplant.Text.Blank

/-!
# Layouts

How a record becomes a line: a template whose text has tags for colours. A tag `<name>` switches a
colour on and `</name>` ends the one switched on last, which `</>` does without naming it. A tag behind an
odd number of backslashes is text. Tags are properly nested, and none is left open.
-/

namespace Transplant.Log

/-! ## Tags -/

/-- A character of a text, or a tag. -/
inductive Mark where
  | char (c : Char)
  | opening (name : List Char)
  | closing (name : List Char)
deriving DecidableEq, Repr

namespace Mark

/-- Whether a character may stand in the name of a tag. -/
def isNameChar (c : Char) : Bool :=
  c != '<' && c != '>' && !Text.isBlank c

/-- Reads the name of a tag up to its `>`. A blank may stand only behind `fg` or `bg` at the start. -/
def readName (cs : List Char) : Option (List Char × List Char) :=
  let place := match cs with
    | a :: 'g' :: c :: _ => if (a == 'f' || a == 'b') && Text.isBlank c then cs.take 3 else []
    | _ => []
  let rest := cs.drop place.length
  let name := rest.takeWhile isNameChar
  match rest.drop name.length with
  | '>' :: after => some (place ++ name, after)
  | _ => none

/-- Reads a tag, and whether it is a closing one. -/
def readTag : List Char → Option (Bool × List Char × List Char)
  | '<' :: '/' :: rest => (readName rest).map fun (name, after) => (true, name, after)
  | '<' :: rest => (readName rest).map fun (name, after) => (false, name, after)
  | _ => none

/-- The characters and tags of a text. Of the backslashes before a tag half remain, and an odd one
makes the tag text. -/
def ofText : (fuel slashes : Nat) → List Char → List Mark
  | 0, _, _ => []
  | _, slashes, [] => List.replicate slashes (.char '\\')
  | fuel + 1, slashes, c :: rest =>
    if c == '\\' then ofText fuel (slashes + 1) rest
    else match readTag (c :: rest) with
      | none => List.replicate slashes (.char '\\') ++ .char c :: ofText fuel 0 rest
      | some (isClosing, name, after) =>
        let tag := (c :: rest).take ((c :: rest).length - after.length)
        let shown := if slashes % 2 == 1 then tag.map .char
          else [if isClosing then .closing name else .opening name]
        List.replicate (slashes / 2) (.char '\\') ++ shown ++ ofText fuel 0 after

end Mark

/-! ## Layouts -/

/-- A piece of a line. The end of a colour switches all of them off and those still open on again. -/
inductive Piece where
  | char (c : Char)
  | colour (c : Colour)
  | reset (remaining : List Colour)
  | slot (s : Slot)
deriving DecidableEq, Repr

/-- How a record becomes a line. -/
structure Layout where
  pieces : List Piece
deriving DecidableEq, Repr

namespace Layout

/-- The tags that are open, the last one first. -/
abbrev OpenTags := List (List Char × Colour)

/-- The piece that a mark makes, and the tags open behind it. -/
def step? (tags : OpenTags) : Mark → Option (Piece × OpenTags)
  | .char c => some (.char c, tags)
  | .opening name => (Colour.ofName? name).map fun c => (.colour c, (name, c) :: tags)
  | .closing name =>
    match tags with
    | [] => none
    | (last, _) :: tags =>
      if name.isEmpty || name == last then some (.reset (tags.reverse.map (·.2)), tags) else none

/-- The pieces that some marks make, and the tags open behind them. -/
def ofMarks? : OpenTags → List Mark → Option (List Piece × OpenTags)
  | tags, [] => some ([], tags)
  | tags, m :: rest => do
    let (piece, tags) ← step? tags m
    let (pieces, tags) ← ofMarks? tags rest
    return (piece :: pieces, tags)

/-- The pieces of a template; no tag may be open at its end. -/
def ofParts? : OpenTags → List Part → Option (List Piece)
  | tags, [] => if tags.isEmpty then some [] else none
  | tags, .text cs :: rest => do
    let (pieces, tags) ← ofMarks? tags (Mark.ofText (cs.length + 1) 0 cs)
    return pieces ++ (← ofParts? tags rest)
  | tags, .slot s :: rest => do
    return .slot s :: (← ofParts? tags rest)

/-- The depth to which slots may stand in descriptions of slots. -/
def slotDepth : Nat := 3

/-- The layout of the lines of a log, each of which ends with a line feed and the slot for an
exception. -/
def parse? (format : String) : Option Layout :=
  let template := format.toList ++ "\n\x7bexception\x7d".toList
  if Part.isSound slotDepth template then
    ((Part.ofTemplate? template).bind (ofParts? [])).map Layout.mk
  else none

/-- A piece for a record, with or without colours. -/
def showPiece? (coloured : Bool) (r : Record) : Piece → Option (List Char)
  | .char c => some [c]
  | .colour c => some (if coloured then c.sequences r.level else [])
  | .reset remaining =>
    some (if coloured then Colour.reset ++ remaining.flatMap (·.sequences r.level) else [])
  | .slot s => s.fill? r slotDepth

/-- The line of a record, with or without colours. -/
def render? (l : Layout) (coloured : Bool) (r : Record) : Option (List Char) :=
  (l.pieces.mapM (showPiece? coloured r)).map List.flatten

end Layout

/-! ## Plain formats -/

/-- Whether a character is a small letter. -/
def isSmallLetter (c : Char) : Bool := 'a' ≤ c && c ≤ 'z'

/-- A format without its tags of small letters only. -/
def dropPlainTags : (fuel : Nat) → List Char → List Char
  | 0, cs => cs
  | _, [] => []
  | fuel + 1, c :: rest =>
    let body := if rest.head? == some '/' then rest.tail else rest
    let name := body.takeWhile isSmallLetter
    match c, name.isEmpty, body.drop name.length with
    | '<', false, '>' :: after => dropPlainTags fuel after
    | _, _, _ => c :: dropPlainTags fuel rest

/-- The format for lines without colours. -/
def plainFormat (format : String) : String :=
  String.ofList (dropPlainTags format.length format.toList)

end Transplant.Log
