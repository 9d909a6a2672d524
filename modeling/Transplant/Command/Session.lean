import Transplant.Disk.Basic
import Transplant.Environment.Basic
import Transplant.Log.Sink
import Transplant.Terminal.Print
import Transplant.Tree.Process

/-!
# Sessions

What a command works with and leaves behind: the disk, the text on the standard output, the processes that
were started and the log. A step of a command changes the session, and returns or fails.
-/

namespace Transplant.Command

variable [Terminal.Lexicon]

/-- What a command works with and leaves behind. -/
structure Session where
  directory : Tree.Path
  environment : Environment
  tool : Tree.Request → Tree.Outcome
  disk : Disk
  output : List UInt8 := []
  requests : List Tree.Request := []
  log : Option Log.Sinks := none

/-- A step of a command, which may fail. -/
abbrev Step := ExceptT Failure (StateM Session)

/-- A step from a given session: its outcome and the session after it. -/
def Step.exec {α : Type} (step : Step α) (s : Session) : Except Failure α × Session :=
  step.run.run s

/-- The cells of a line on the terminal. -/
def terminalWidth : Nat := 80

/-- The outcome of a step that has already been decided. -/
def settle {α : Type} : Except Failure α → Step α
  | .ok a => pure a
  | .error e => throw e

/-! ## Output -/

/-- Writes bytes to the standard output. -/
def echo (bytes : List UInt8) : Step Unit :=
  modify fun s => { s with output := s.output ++ bytes }

/-- Writes a text to the standard output, unless its markup makes no sense. -/
def display (text : Except Terminal.MarkupFault String) : Step Unit := do
  echo (Text.encodeUtf8 (← settle (text.mapError .markup)))

/-- Prints a line with markup. -/
def print (markup : String) : Step Unit :=
  display (Terminal.printed terminalWidth markup)

/-! ## Files -/

/-- Changes the file at a path, under the name by which messages call it. -/
def updateFile (path : Tree.Path) (name : String) (f : List UInt8 → List UInt8) : Step Unit := do
  let s ← get
  let disk ← settle ((s.disk.update path f).mapError fun why => .disk why name)
  set { s with disk := disk }

/-- Writes a file. -/
def writeFile (file : String) (contents : List UInt8) : Step Unit := do
  let l := Disk.Location.ofText file
  updateFile (l.absolute (← get).directory) l.text fun _ => contents

/-- Reads a file. -/
def readFile (file : String) : Step (List UInt8) := do
  let s ← get
  let l := Disk.Location.ofText file
  settle ((s.disk.read (l.absolute s.directory)).mapError fun why => .disk why l.text)

/-- Makes the directory of a file, with those above it. -/
def makeDirectoryOf (file : String) : Step Unit := do
  let s ← get
  let disk ← settle (s.disk.ensureDirectories s.directory (Disk.Location.ofText file).parent)
  set { s with disk := disk }

/-! ## Log -/

/-- Adds a text to the log file. -/
def appendLog (file text : String) : Step Unit := do
  let path := (Tree.Path.resolve (← get).directory file).collapse
  updateFile path path.text (· ++ Text.encodeUtf8 text)

/-- Writes records to the log file, if there is one. -/
def logAll (records : List Log.Record) : Step Unit := do
  match (← get).log.bind (·.fileText records) with
  | some (file, text) => appendLog file text
  | none => pure ()

/-- Starts a log that was set up. The file is there before the first record, and also when its layout makes
no sense. -/
def startSinks (setup : Log.Setup) : Step Unit := do
  if let some file := setup.asked then makeDirectoryOf file
  if let some file := setup.created then appendLog file ""
  let sinks ← settle setup.sinks
  modify fun s => { s with log := some sinks }
  logAll [sinks.firstRecord]

/-- Starts the log that settings ask for. -/
def startLog (settings : Settings.Logging) (verbose : Bool) : Step Unit := do
  startSinks (Log.configure settings verbose)

/-- Does what an activity did: its processes are counted, its records logged, and its outcome holds. -/
def perform {α : Type} (a : Tree.Activity α) : Step α := do
  modify fun s => { s with requests := s.requests ++ a.requests }
  logAll a.records
  settle a.outcome

end Transplant.Command
