import Transplant.Text.Similar

/-!
# Signatures

What a command takes: switches, some of them with a value, and arguments in order. A signature with commands
belongs to a group, whose first word names the command to go on with.
-/

namespace Transplant.Command

/-- The kinds of paths. -/
inductive PathKind where
  | any
  | directory
  | file
deriving DecidableEq, Repr

/-- What a value has to be. -/
inductive Shape where
  | text
  | number
  | path (kind : PathKind) (mustExist : Bool)
deriving DecidableEq, Repr

/-- The kind of a value as pages show it. -/
def Shape.kindName : Shape → String
  | .text => "TEXT"
  | .number => "INTEGER"
  | .path .any _ => "PATH"
  | .path .directory _ => "DIRECTORY"
  | .path .file _ => "FILE"

/-- What a switch does: it sets a value, it is on, or it ends the reading with a page or the version. -/
inductive Effect where
  | value (shape : Shape)
  | on
  | help
  | version
deriving DecidableEq, Repr

/-- A switch with its long name, which two dashes precede, and perhaps a letter. -/
structure Switch where
  long : String
  letter : Option Char := none
  effect : Effect
  summary : String
deriving DecidableEq, Repr

namespace Switch

/-- The short name of a switch. -/
def short? (s : Switch) : Option String :=
  s.letter.map fun c => String.ofList ['-', c]

/-- The shape of a switch's value. -/
def shape? (s : Switch) : Option Shape :=
  match s.effect with
  | .value shape => some shape
  | _ => none

end Switch

/-- An argument with the name that pages give it. -/
structure Argument where
  name : String
  shape : Shape
deriving DecidableEq, Repr

/-- What a command takes, behind the words by which it is called. -/
structure Signature where
  call : String
  summary : String
  switches : List Switch
  arguments : List Argument := []
  commands : List (String × String) := []
deriving DecidableEq, Repr

/-- The switch that asks for the page of a command. -/
def helpSwitch : Switch :=
  { long := "--help", effect := .help, summary := "Show this message and exit." }

namespace Signature

/-- Whether a signature belongs to a group of commands. -/
def isGroup (s : Signature) : Bool :=
  !s.commands.isEmpty

/-- The switch with a long name. -/
def long? (s : Signature) (name : String) : Option Switch :=
  s.switches.find? fun w => w.long == name

/-- The switch with a letter. -/
def letter? (s : Signature) (c : Char) : Option Switch :=
  s.switches.find? fun w => w.letter == some c

end Signature

end Transplant.Command
