import Transplant.Terminal.Markup
import Transplant.Terminal.Wrap

/-!
# Tables and panels

Texts in frames. A table has a title, a row of heads and rows of cells, all with markup; its columns are as
wide as their longest line, and where that is too much for the terminal the widest column
gives way. A panel is a frame around some lines.
-/

namespace Transplant.Terminal

/-- A table: a title, the heads of the columns and the rows. -/
structure Table where
  title : String
  heads : List String
  rows : List (List String)
deriving DecidableEq, Repr

namespace Table

variable [Lexicon]

/-- Whether a character ends a line where the width of a text is measured. -/
def isLineEnd (c : Char) : Bool :=
  [0x0a, 0x0b, 0x0c, 0x0d, 0x1c, 0x1d, 0x1e, 0x85, 0x2028, 0x2029].contains c.toNat

/-- The cells that the longest line of a text takes. -/
def longestLine (cs : List Char) : Nat :=
  ((cs.splitBy fun a b => !isLineEnd a && !isLineEnd b).map fun line =>
    cells (line.filter fun c => !isLineEnd c)).foldl max 0

/-! ## Widths -/

/-- The columns of some rows. -/
def columns (count : Nat) (rows : List (List (List Char))) : List (List (List Char)) :=
  (List.range count).map fun i => rows.map fun row => row.getD i []

/-- The width of a column, with a blank on each side. -/
def columnWidth (column : List (List Char)) : Nat :=
  (column.map longestLine).foldl max 0 + 2

/-- The sum of some widths. -/
def total (widths : List Nat) : Nat :=
  widths.foldr (fun w n => w + n) 0

/-- Widths whose sum is within a limit: the excess is taken from the first of the widest. -/
def fitted (limit : Nat) (widths : List Nat) : List Nat :=
  let excess := total widths - limit
  match widths.findIdx? fun w => widths.all (· ≤ w) with
  | some i => widths.modify i (· - excess)
  | none => widths

/-! ## Frames -/

/-- The characters of a horizontal line: at its start, along it, between columns and at its end. -/
structure Rule where
  start : Char
  along : Char
  between : Char
  finish : Char

/-- A horizontal line over columns. -/
def Rule.over (r : Rule) (widths : List Nat) : List Char :=
  [r.start] ++ [r.between].intercalate (widths.map fun w => List.replicate w r.along) ++ [r.finish]

/-- The line above the heads. -/
def top : Rule := ⟨'┏', '━', '┳', '┓'⟩

/-- The line below the heads. -/
def middle : Rule := ⟨'┡', '━', '╇', '┩'⟩

/-- The line below the rows. -/
def bottom : Rule := ⟨'└', '─', '┴', '┘'⟩

/-- The lines of a cell. -/
def cellLines (width : Nat) (cell : List Char) : List (List Char) :=
  (wrap (width - 2) .ellipsis .left cell).map fun line => ' ' :: line ++ [' ']

/-- The lines of a row between bars; cells with fewer lines are filled up with blank ones. -/
def rowLines (bar : Char) (widths : List Nat) (row : List (List Char)) : List (List Char) :=
  let parts := widths.zipWith (fun w cell => (w, cellLines w cell)) row
  let height := (parts.map fun p => p.2.length).foldl max 1
  (List.range height).map fun i =>
    [bar] ++ [bar].intercalate (parts.map fun (w, lines) => lines.getD i (List.replicate w ' ')) ++ [bar]

/-- The lines of a table on a terminal with a width. -/
def lines (width : Nat) (t : Table) : Except MarkupFault (List (List Char)) := do
  let heads ← t.heads.mapM Markup.read
  let rows ← t.rows.mapM (·.mapM Markup.read)
  let title ← Markup.visible t.title
  let heads ← heads.mapM Markup.Seen.draw
  let rows ← rows.mapM (·.mapM Markup.Seen.draw)
  let borders := heads.length + 1
  let widths := fitted (width - borders) ((columns heads.length (heads :: rows)).map columnWidth)
  return wrap (total widths + borders) .fold .centre title
    ++ [top.over widths] ++ rowLines '┃' widths heads
    ++ [middle.over widths] ++ rows.flatMap (rowLines '│' widths) ++ [bottom.over widths]

/-- A table as it is printed. -/
def print (width : Nat) (t : Table) : Except MarkupFault String :=
  (t.lines width).map fun ls => String.ofList (ls.flatMap (· ++ ['\n']))

end Table

/-- The lines of a panel around some lines. -/
def panel (content : List (List Char)) : List (List Char) :=
  let width := (content.map cells).foldl max 0
  let line := List.replicate (width + 2) '─'
  let row (cs : List Char) := ['│', ' '] ++ cs ++ List.replicate (width - cells cs) ' ' ++ [' ', '│']
  [['╭'] ++ line ++ ['╮']] ++ content.map row ++ [['╰'] ++ line ++ ['╯']]

end Transplant.Terminal
