import Transplant.Terminal.Width

/-!
# Terminal cells

The number of cells that a terminal needs for a text, and a text cut to a number of cells. A joiner
draws the character behind it into the one before it, and a selector turns the character before it into
a picture, so a text is cut only between clusters of characters.
-/

namespace Transplant.Terminal

/-- The character that joins the next one to what is before it. -/
def joiner : Char := '\u200d'

/-- The character that asks for the one before it to be drawn as a picture. -/
def selector : Char := '\ufe0f'

/-! ## Counting -/

/-- A count of cells: its sum, the last character with a cell of its own unless it was drawn as a
picture, and whether the next character is joined to what was counted. -/
structure Count where
  cells : Nat
  last : Option Char
  joined : Bool
deriving DecidableEq, Repr

namespace Count

/-- Nothing counted. -/
def start : Count := ⟨0, none, false⟩

/-- Counts one more character. -/
def add (n : Count) (c : Char) : Count :=
  if n.joined then { n with joined := false }
  else if c == joiner then { n with joined := true }
  else if c == selector then
    { n with cells := n.cells + (if n.last.any hasPicture then 1 else 0), last := none }
  else if cellWidth c == 0 then n
  else { n with cells := n.cells + cellWidth c, last := some c }

end Count

/-- The number of cells of a text. -/
def cells (cs : List Char) : Nat :=
  (cs.foldl Count.add Count.start).cells

/-! ## Clusters -/

/-- Characters that are drawn together: their cells, and the one that a selector behind them may turn
into a picture. -/
structure Cluster where
  text : List Char
  cells : Nat
  base : Option Char
deriving DecidableEq, Repr

namespace Cluster

/-- The cluster of one character. -/
def ofChar (c : Char) : Cluster :=
  ⟨[c], cellWidth c, if cellWidth c == 0 then none else some c⟩

/-- A cluster with one more character that takes no cell. -/
def attach (k : Cluster) (c : Char) : Cluster :=
  { k with text := k.text ++ [c] }

/-- A cluster whose base is drawn as a picture. -/
def pictured (k : Cluster) : Cluster :=
  if k.base.any hasPicture then { k with cells := k.cells + 1, base := none } else k

/-- A cluster with the characters that belong to it, and the clusters behind it. -/
def read (present : Cluster) (joined : Bool) : List Char → List Cluster
  | [] => [present]
  | c :: rest =>
    if joined then read (present.attach c) false rest
    else if c == joiner then read (present.attach c) true rest
    else if c == selector then read (present.pictured.attach c) false rest
    else if cellWidth c == 0 then read (present.attach c) false rest
    else present :: read (ofChar c) false rest

end Cluster

/-- The clusters of a text. A joiner at its start joins nothing. -/
def clusters : List Char → List Cluster
  | [] => []
  | c :: rest => Cluster.read (.ofChar c) false rest

/-! ## Cutting -/

/-- The text of the first clusters within a number of cells, and the cells that are left. -/
def takeCells : (room : Nat) → List Cluster → List Char × Nat
  | room, [] => ([], room)
  | room, k :: rest =>
    if k.cells ≤ room then
      let (text, left) := takeCells (room - k.cells) rest
      (k.text ++ text, left)
    else ([], room)

/-- A text cut to a number of cells; half of a wide character is left blank. -/
def crop (width : Nat) (cs : List Char) : List Char :=
  if cells cs ≤ width then cs
  else
    let (kept, left) := takeCells width (clusters cs)
    kept ++ List.replicate left ' '

end Transplant.Terminal
