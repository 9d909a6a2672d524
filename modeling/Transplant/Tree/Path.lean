import Transplant.Text.Split

/-!
# Absolute paths

Absolute paths as a root and the names below it. A text is made absolute by joining it to the working
directory; empty and `.` components disappear, `..` stays, and exactly two leading slashes
are a root of their own.
-/

namespace Transplant.Tree

/-- An absolute path: whether its root has two slashes, and the names from the root down. -/
structure Path where
  doubleRoot : Bool
  names : List (List Char)
deriving DecidableEq, Repr, Inhabited

namespace Path

/-- The components of a text that count. -/
def components (cs : List Char) : List (List Char) :=
  (Text.splitOn '/' cs).filter fun name => !name.isEmpty && name != ['.']

/-- Whether a text starts at a root, and whether at the one with two slashes. -/
def root? (cs : List Char) : Option Bool :=
  match (cs.takeWhile (· == '/')).length with
  | 0 => none
  | n => some (n == 2)

/-- The path of a text that is absolute, and the path below a directory of one that is not. -/
def resolve (cwd : Path) (s : String) : Path :=
  let cs := s.toList
  match root? cs with
  | some double => ⟨double, components cs⟩
  | none => { cwd with names := cwd.names ++ components cs }

/-- The path of an absolute text; one without a slash in front counts from the root. -/
def ofText (s : String) : Path :=
  resolve ⟨false, []⟩ s

/-- The directory above a path; the root is above itself. -/
def parent (p : Path) : Path :=
  { p with names := p.names.dropLast }

/-- The last name of a path, empty at the root. -/
def name (p : Path) : String :=
  String.ofList (p.names.getLast?.getD [])

/-- A path one name further down. -/
def child (p : Path) (name : List Char) : Path :=
  { p with names := p.names ++ [name] }

/-- The text of a path. -/
def text (p : Path) : String :=
  String.ofList ((if p.doubleRoot then ['/', '/'] else ['/']) ++ Text.joinWith '/' p.names)

/-- Names without those that a following `..` takes back. -/
def collapseOnto : (above : List (List Char)) → List (List Char) → List (List Char)
  | above, [] => above.reverse
  | above, name :: rest =>
    if name = ['.', '.'] then collapseOnto above.tail rest else collapseOnto (name :: above) rest

/-- The path with every `..` taken back; above the root there is only the root. -/
def collapse (p : Path) : Path :=
  { p with names := collapseOnto [] p.names }

end Path

end Transplant.Tree
