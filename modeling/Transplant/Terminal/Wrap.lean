import Transplant.Terminal.Cells
import Transplant.Text.Blank
import Transplant.Text.Split

/-!
# Wrapping

How a text is laid out in lines of limited width. Lines end between words; a word that is too long for a
line is folded or, where lines are cut, left to be cut. Blanks behind a word belong to it, but need no
room at the end of a line.
-/

namespace Transplant.Terminal

/-- What becomes of words that are too long for a line: they go on in the next line, or they are cut
and end with an ellipsis. -/
inductive Overflow where
  | fold
  | ellipsis
deriving DecidableEq, Repr

/-- Where the text of a line stands. -/
inductive Justify where
  | none
  | left
  | centre
deriving DecidableEq, Repr

namespace Wrap

/-! ## Words -/

/-- The words of a line, each with the blanks behind it; the first also has those before it. A line of
blanks has no words. -/
def readWords : (fuel : Nat) → List Char → List (List Char)
  | 0, _ => []
  | fuel + 1, cs =>
    let before := cs.takeWhile Text.isBlank
    let body := (cs.drop before.length).takeWhile fun c => !Text.isBlank c
    let after := (cs.drop (before.length + body.length)).takeWhile Text.isBlank
    let word := before ++ body ++ after
    if body.isEmpty then [] else word :: readWords fuel (cs.drop word.length)

/-- A word in pieces that fit a width, as far as single clusters do. -/
def chop (width : Nat) : (used : Nat) → (piece : List Char) → List Cluster → List (List Char)
  | _, piece, [] => [piece]
  | used, piece, k :: rest =>
    if used + k.cells > width then piece :: chop width k.cells k.text rest
    else chop width (used + k.cells) (piece ++ k.text) rest

/-- Puts pieces on lines of their own; the first one goes on in the present line if that is the first
one. The result is the finished lines and the present one. -/
def addPieces : (started : Bool) → (line : List Char) → List (List Char) → List (List Char) × List Char
  | _, line, [] => ([], line)
  | started, line, piece :: rest =>
    if started then
      let (finished, last) := addPieces true piece rest
      (line :: finished, last)
    else addPieces (!piece.isEmpty) (line ++ piece) rest

/-- Puts words on lines. `used` counts the cells of the present line, and `started` tells whether
any characters of the text stand before the next word. -/
def place (width : Nat) (overflow : Overflow) :
    (used : Nat) → (started : Bool) → (line : List Char) → List (List Char) → List (List Char)
  | _, _, line, [] => [line]
  | used, started, line, word :: rest =>
    let needed := cells (Text.dropWhileEnd Text.isBlank word)
    if used + needed ≤ width then place width overflow (used + cells word) true (line ++ word) rest
    else if needed > width && overflow == .fold then
      let pieces := chop width 0 [] (clusters word)
      let (finished, last) := addPieces started line pieces
      finished ++ place width overflow (cells (pieces.getLastD [])) true last rest
    else if started && (needed > width || used != 0) then
      line :: place width overflow (cells word) true word rest
    else
      place width overflow (if needed > width then cells word else used) true (line ++ word) rest

/-! ## Lines -/

/-- Parts of a line with spaces for the tabs between them. A tab is one space, and more up to the next
multiple of eight cells. -/
def expandTabs : (column : Nat) → List (List Char) → List Char
  | _, [] => []
  | _, [part] => part
  | column, part :: rest =>
    let part := part ++ [' ']
    let column := column + cells part
    let more := (8 - column % 8) % 8
    part ++ List.replicate more ' ' ++ expandTabs (column + more) rest

/-- A line without the blanks at its end that reach beyond a number of characters. -/
def trimExcess (width : Nat) (line : List Char) : List Char :=
  let blanks := line.length - (Text.dropWhileEnd Text.isBlank line).length
  line.take (line.length - min blanks (line.length - width))

/-- A line cut to a width. -/
def truncate (width : Nat) (overflow : Overflow) (line : List Char) : List Char :=
  if cells line ≤ width then line
  else match overflow with
    | .fold => crop width line
    | .ellipsis => crop (width - 1) line ++ ['…']

/-- A line in its place. -/
def justified (width : Nat) (overflow : Overflow) (how : Justify) (line : List Char) : List Char :=
  let spaces (n : Nat) := List.replicate n ' '
  match how with
  | .none => truncate width overflow line
  | .left =>
    let line := truncate width overflow line
    line ++ spaces (width - cells line)
  | .centre =>
    let line := truncate width overflow (Text.dropWhileEnd Text.isBlank line)
    let line := spaces ((width - cells line) / 2) ++ line
    line ++ spaces (width - cells line)

/-- The lines of one line of a text. -/
def wrapLine (width : Nat) (overflow : Overflow) (line : List Char) : List (List Char) :=
  let line := expandTabs 0 (Text.splitOn '\t' line)
  match readWords (line.length + 1) line with
  | [] => [line]
  | words => place width overflow 0 false [] words

end Wrap

/-- The lines of a text. -/
def wrap (width : Nat) (overflow : Overflow) (how : Justify) (cs : List Char) : List (List Char) :=
  (Text.lines cs).flatMap fun line =>
    (Wrap.wrapLine width overflow line).map fun l =>
      Wrap.justified width overflow how (Wrap.trimExcess width l)

/-- A text as it is printed, without a line feed at its end. -/
def layOut (width : Nat) (cs : List Char) : List Char :=
  Text.joinWith '\n' (wrap width .fold .none cs)

end Transplant.Terminal
