import Transplant.Command.Catalogue
import Transplant.Command.Line
import Transplant.Command.Page
import Transplant.Disk.Basic

/-!
# Invocations

What a command line asks for, or why nothing is done about it. A page or the version is shown before any
value is looked at; then values are checked in the order in which they were given, and
arguments after them.
-/

namespace Transplant.Command

/-- What the program is asked to do. -/
inductive Action where
  | init (output : String)
  | diff (left right : String) (output : Option String)
  | patch (target diffFile : String) (exclude : List String) (strip : Option Int) (reverse : Bool)
  | modes
  | status
deriving DecidableEq, Repr

/-- An action with the choices that hold for all of them. -/
structure Invocation where
  config : Option String
  verbose : Bool
  action : Action
deriving DecidableEq, Repr

/-- Why nothing is done about a command line. -/
inductive Stop where
  | help
  | version
  | bare
  | misuse (why : Misuse)
  | disk (why : Disk.Fault)
deriving DecidableEq, Repr

/-! ## Values -/

/-- The word for a kind of path. -/
def PathKind.word : PathKind → String
  | .any => "Path"
  | .directory => "Directory"
  | .file => "File"

/-- Why a value does not have a shape. -/
def Shape.refusal? (disk : Disk) (cwd : Tree.Path) (shape : Shape) (value : String) : Option String :=
  match shape with
  | .text => none
  | .number =>
    match Numeral.parse value with
    | .ok _ => none
    | .error _ => some (Text.quoted value ++ " is not a valid integer.")
  | .path kind mustExist =>
    let subject := kind.word ++ " " ++ Text.quoted value
    match disk.examine cwd value, kind with
    | .error _, _ => if mustExist then some (subject ++ " does not exist.") else none
    | .ok (.file _), .directory => some (subject ++ " is a file.")
    | .ok .directory, .file => some (subject ++ " is a directory.")
    | .ok _, _ => none

/-- Whether a value has to be a path. -/
def Shape.isPath : Shape → Bool
  | .path .. => true
  | _ => false

/-- Checks a value at a place of the command line. The disk cannot be asked for every path. -/
def checkValue (disk : Disk) (cwd : Tree.Path) (place : String) (shape : Shape) (value : String) :
    Except Stop Unit :=
  if shape.isPath && Disk.hasNull value.toList then .error (.disk .nullByte)
  else (shape.refusal? disk cwd value).elim (.ok ()) fun why => .error (.misuse (.badValue place why))

/-- A switch as messages name it. -/
def Switch.place (s : Switch) : String :=
  " / ".intercalate ((s.long :: s.short?.toList).map Text.quoted)

/-- Checks the value that counts for a switch. -/
def checkSwitch (disk : Disk) (cwd : Tree.Path) (l : Line) (s : Switch) : Except Stop Unit :=
  match s.shape?, l.value? s.long with
  | some shape, some value => checkValue disk cwd s.place shape value
  | _, _ => .ok ()

/-- Checks the words for some arguments; the result is the words that are left. -/
def checkArguments (disk : Disk) (cwd : Tree.Path) : List Argument → List String → Except Stop (List String)
  | [], words => .ok words
  | a :: _, [] => .error (.misuse (.missingArgument a.name))
  | a :: rest, word :: words => do
    checkValue disk cwd ("'" ++ a.name ++ "'") a.shape word
    checkArguments disk cwd rest words

/-! ## Reading -/

/-- The page or version that a line asks for first. -/
def Line.stop? (l : Line) : Option Stop :=
  l.given.findSome? fun g =>
    match g.switch.effect with
    | .help => some .help
    | .version => some .version
    | _ => none

/-- Reads a command line with a signature. -/
def Signature.read (s : Signature) (disk : Disk) (cwd : Tree.Path) (words : List String) : Except Stop Line := do
  let l ← (Line.read s words).mapError .misuse
  match l.stop? with
  | some stop => throw stop
  | none =>
    l.given.forM fun g => checkSwitch disk cwd l g.switch
    let rest ← checkArguments disk cwd s.arguments l.words
    if rest.isEmpty || s.isGroup then return l
    else throw (.misuse (.extraWords rest))

/-- The action that a line of a verb asks for. -/
def Verb.action (v : Verb) (l : Line) : Action :=
  let word (i : Nat) : String := l.words.getD i ""
  match v with
  | .init => .init ((l.value? "--output").getD "tree-migrate.yaml")
  | .diff => .diff (word 0) (word 1) (l.value? "--output")
  | .patch =>
    .patch (word 0) (word 1) (l.values "--exclude")
      ((l.value? "--strip").bind fun digits => (Numeral.parse digits).toOption) (l.has "--reverse")
  | .modes => .modes
  | .status => .status

/-- The verb of a line of the program, and the words behind it. A word that is no verb is read once more
as a line of its own, so that a switch in its place is told so. -/
def verbOf (disk : Disk) (cwd : Tree.Path) (l : Line) : Except Stop (Verb × List String) :=
  match l.words with
  | [] => .error (.misuse .missingCommand)
  | word :: words =>
    match Verb.ofName? word with
    | some v => .ok (v, words)
    | none => do
      let _ ← signature.read disk cwd l.words
      throw (.misuse (.unknownCommand word (Text.similarTo word (Verb.all.map Verb.name))))

/-- Reads a command line: the invocation, or why there is none and whose page is to be seen. -/
def Invocation.read (disk : Disk) (cwd : Tree.Path) (words : List String) :
    Except (Signature × Stop) Invocation := do
  if words.isEmpty then throw (signature, .bare)
  let l ← (signature.read disk cwd words).mapError (signature, ·)
  let (verb, words) ← (verbOf disk cwd l).mapError (signature, ·)
  let own ← (verb.signature.read disk cwd words).mapError (verb.signature, ·)
  return { config := l.value? "--config", verbose := l.has "--verbose", action := verb.action own }

/-! ## Refusals -/

/-- The words that point out what may have been meant. -/
def suggestion : List String → String
  | [] => ""
  | [one] => " Did you mean " ++ Text.quoted one ++ "?"
  | several => " (Possible options: " ++ ", ".intercalate (several.map Text.quoted) ++ ")"

/-- The words of a misuse. -/
def Misuse.message : Misuse → String
  | .unknownSwitch given similar => "No such option " ++ Text.quoted given ++ "." ++ suggestion similar
  | .missingValue switch => "Option " ++ Text.quoted switch ++ " requires an argument."
  | .needlessValue switch => "Option " ++ Text.quoted switch ++ " does not take a value."
  | .missingArgument name => "Missing argument '" ++ name ++ "'."
  | .extraWords words =>
    "Got unexpected extra argument" ++ (if words.length == 1 then "" else "s") ++
      " (" ++ " ".intercalate words ++ ")"
  | .missingCommand => "Missing command."
  | .unknownCommand word similar => "No such command " ++ Text.quoted word ++ "." ++ suggestion similar
  | .badValue place why => "Invalid value for " ++ place ++ ": " ++ why

/-- Whether a misuse is told together with how the command is called; one that comes from a single
switch is not. -/
def Misuse.showsUsage : Misuse → Bool
  | .missingValue _ | .needlessValue _ => false
  | _ => true

/-- What is told about a misuse. -/
def Misuse.text (why : Misuse) (s : Signature) : String :=
  (if why.showsUsage then s.usage ++ "Try '" ++ s.call ++ " --help' for help.\n\n" else "") ++
    "Error: " ++ why.message ++ "\n"

end Transplant.Command
