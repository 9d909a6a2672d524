import Transplant.Tree.Path

/-!
# Locations

Paths as they are given, from a root or from the working directory on. A location is shown without empty and
`.` components, and the empty one as `.`.
-/

namespace Transplant.Disk

/-- A path as it was given: its root, if it has one, and the names below. -/
structure Location where
  root : Option Bool
  names : List (List Char)
deriving DecidableEq, Repr

namespace Location

/-- The location that a text gives. -/
def ofText (s : String) : Location :=
  ⟨Tree.Path.root? s.toList, Tree.Path.components s.toList⟩

/-- The text of a location. -/
def text (l : Location) : String :=
  let below := Text.joinWith '/' l.names
  String.ofList (match l.root with
    | some double => (if double then ['/', '/'] else ['/']) ++ below
    | none => if below.isEmpty then ['.'] else below)

/-- The location of the directory above; where no name is left it is the location itself. -/
def parent (l : Location) : Location :=
  { l with names := l.names.dropLast }

/-- The absolute path of a location seen from a working directory. -/
def absolute (cwd : Tree.Path) (l : Location) : Tree.Path :=
  match l.root with
  | some double => ⟨double, l.names⟩
  | none => { cwd with names := cwd.names ++ l.names }

end Location

end Transplant.Disk
