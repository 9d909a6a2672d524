import Transplant.Disk.Location
import Transplant.Failure

/-!
# Disks

The files and directories that a command works on, by their names from the root down. A path is walked name by
name, as the system does: each one has to be in a directory, and `..` leads to the one above.
-/

namespace Transplant

/-- What is found at a path. -/
inductive Disk.Entry where
  | file (contents : List UInt8)
  | directory
deriving DecidableEq, Repr

/-- The files and directories below the root. -/
structure Disk where
  entries : List (List (List Char) × Disk.Entry) := []
deriving DecidableEq, Repr

namespace Disk

/-- A place on a disk: the names from the root down, without `..`. -/
abbrev Place := List (List Char)

/-- What is at a place; the root is a directory. -/
def entry? (d : Disk) (place : Place) : Option Entry :=
  if place.isEmpty then some .directory
  else (d.entries.find? fun e => e.1 == place).map (·.2)

/-- The disk with something at a place. -/
def put (d : Disk) (place : Place) (entry : Entry) : Disk :=
  if d.entries.any fun e => e.1 == place then
    { d with entries := d.entries.map fun e => if e.1 == place then (place, entry) else e }
  else { d with entries := d.entries ++ [(place, entry)] }

/-! ## Walking -/

/-- The greatest length of a name in bytes. -/
def maxName : Nat := 255

/-- Where a name leads from a place. -/
def step (d : Disk) (place : Place) (name : List Char) : Except Fault Place :=
  match d.entry? place with
  | none => .error .missing
  | some (.file _) => .error .notDirectory
  | some .directory =>
    if name = [] ∨ name = ['.'] then .ok place
    else if name = ['.', '.'] then .ok place.dropLast
    else if Text.encodedLength name > maxName then .error .nameTooLong
    else .ok (place ++ [name])

/-- Whether a name holds the character that ends names for the system. -/
def hasNull (name : List Char) : Bool :=
  name.contains '\x00'

/-- The place of a path, where there need not be anything. -/
def locate (d : Disk) (p : Tree.Path) : Except Fault Place :=
  if p.names.any hasNull then .error .nullByte else p.names.foldlM d.step []

/-- What is found at a place. -/
def found (d : Disk) (place : Place) : Except Fault Entry :=
  (d.entry? place).elim (.error .missing) .ok

/-- What is found at a path. -/
def lookUp (d : Disk) (p : Tree.Path) : Except Fault Entry := do
  d.found (← d.locate p)

/-- What is found at a path word for word, where a slash at the end asks for a directory. -/
def examine (d : Disk) (cwd : Tree.Path) (given : String) : Except Fault Entry := do
  if hasNull given.toList then throw .nullByte
  if given.isEmpty then throw .missing
  let start ← if given.startsWith "/" then pure [] else d.locate cwd
  d.found (← (Text.splitOn '/' given.toList).foldlM d.step start)

/-! ## Reading and writing -/

/-- The contents of the file at a path. -/
def read (d : Disk) (p : Tree.Path) : Except Fault (List UInt8) := do
  match ← d.lookUp p with
  | .file contents => return contents
  | .directory => throw .isDirectory

/-- The contents of the file at a path that can be written, empty if there is none yet. -/
def readForWriting (d : Disk) (place : Place) : Except Fault (List UInt8) :=
  match d.entry? place with
  | some .directory => .error .isDirectory
  | some (.file contents) => .ok contents
  | none =>
    match d.entry? place.dropLast with
    | some .directory => .ok []
    | some (.file _) => .error .notDirectory
    | none => .error .missing

/-- The disk with new contents in the file at a path, which may be made from the old ones. -/
def update (d : Disk) (p : Tree.Path) (f : List UInt8 → List UInt8) : Except Fault Disk := do
  let place ← d.locate p
  return d.put place (.file (f (← d.readForWriting place)))

/-- The disk with a new directory at a path. -/
def makeDirectory (d : Disk) (p : Tree.Path) : Except Fault Disk := do
  let place ← d.locate p
  match d.entry? place with
  | some _ => throw .taken
  | none => return d.put place .directory

/-- Whether a path leads to a directory. -/
def isDirectory (d : Disk) (p : Tree.Path) : Bool :=
  match d.lookUp p with
  | .ok .directory => true
  | _ => false

/-- The disk with a directory at a location, which may be there already. -/
def ensureDirectory (d : Disk) (cwd : Tree.Path) (l : Location) : Except Failure Disk :=
  match d.makeDirectory (l.absolute cwd) with
  | .ok made => .ok made
  | .error why => if d.isDirectory (l.absolute cwd) then .ok d else .error (.disk why l.text)

/-- The disk with a directory at a location that has a number of names, and with those above it. -/
def ensureAbove (d : Disk) (cwd : Tree.Path) : (depth : Nat) → Location → Except Failure Disk
  | 0, l => d.ensureDirectory cwd l
  | depth + 1, l =>
    match d.makeDirectory (l.absolute cwd) with
    | .error .missing => do
      let above ← d.ensureAbove cwd depth l.parent
      above.ensureDirectory cwd l
    | _ => d.ensureDirectory cwd l

/-- The disk with a directory at a location and with the directories above it. -/
def ensureDirectories (d : Disk) (cwd : Tree.Path) (l : Location) : Except Failure Disk :=
  d.ensureAbove cwd l.names.length l

/-! ## Files -/

/-- The files of a disk, by their places. -/
def files (d : Disk) : List (Place × List UInt8) :=
  d.entries.filterMap fun
    | (place, .file contents) => some (place, contents)
    | (_, .directory) => none

/-- The disk with a file or directory at a place and with the directories above it. -/
def plant (d : Disk) (place : Place) (entry : Entry) : Disk :=
  let above := (List.range (place.length - 1)).map fun i => place.take (i + 1)
  let add (d : Disk) (place : Place) : Disk :=
    if (d.entry? place).isSome then d else d.put place .directory
  (above.foldl add d).put place entry

end Disk

end Transplant
