import Transplant.Command.Run
import Transplant.Terminal.SmallLexicon

/-!
# The program

Runs a command line on the files of the system. The files that the words of the line may name are read
before, and those that the command changed are written after it. Processes are out of reach from here, so the
external tool counts as missing, and of the pictures that have a code only a few are known.
-/

namespace Transplant.Main

/-- The variables that settings are read from. -/
def variableNames : List String :=
  [ "MIGRATE_MODE", "MIGRATE_CHANGE_BASELINE", "MIGRATE_DEFAULT_AUTHOR", "GIT_BINARY", "DIFF_STRIP_SLASHES"
  , "DIFF_EXCLUDED_PATHS", "DIFF_VERBOSE", "LOG_LEVEL", "LOG_FILE" ]

/-- The variables that are set. -/
def environment : IO Environment :=
  variableNames.filterMapM fun name => do return (← IO.getEnv name).map (name, ·)

/-- The paths that a word of a command line may name: the word itself, and what follows `=` or a
letter. -/
def candidates (word : String) : List String :=
  let cs := word.toList
  [word, String.ofList (cs.drop 2), String.ofList ((cs.dropWhile (· != '=')).drop 1)].filter (!·.isEmpty)

/-- Reads what the system has at some paths, and above them. -/
def readDisk (cwd : Tree.Path) (paths : List String) : IO Disk := do
  let here ← IO.currentDir
  let mut disk : Disk := Disk.plant {} cwd.names .directory
  for path in paths do
    let place := (Tree.Path.resolve cwd path).collapse
    for names in (List.range place.names.length).map fun i => place.names.take (i + 1) do
      let real := here / Tree.Path.text ⟨false, names⟩
      if ← real.isDir then disk := disk.put names .directory
      else if ← real.pathExists then
        disk := disk.put names (.file (← IO.FS.readBinFile real).toList)
  return disk

/-- Writes the files of a disk that another one does not have in the same way. -/
def writeDisk (before after : Disk) : IO Unit := do
  let here ← IO.currentDir
  for (place, entry) in after.entries do
    if before.entry? place ≠ some entry then
      let real := here / Tree.Path.text ⟨false, place⟩
      match entry with
      | .directory => IO.FS.createDirAll real
      | .file contents => IO.FS.writeBinFile real ⟨contents.toArray⟩

end Transplant.Main

open Transplant Terminal.SmallLexicon in
/-- Runs the program. A first run on what the words name shows which files the command changes; they are read
too before the run that counts. -/
def main (words : List String) : IO UInt32 := do
  let cwd := Tree.Path.ofText (toString (← IO.currentDir))
  let environment ← Main.environment
  let named := Command.settingsFiles ++ words.flatMap Main.candidates
  let runOn (disk : Disk) : Command.Report :=
    Command.run
      { directory := cwd, environment := environment, tool := fun _ => .missing, disk := disk } words
  let first ← Main.readDisk cwd named
  let touched := (runOn first).session.disk.files.map fun f => Tree.Path.text ⟨false, f.1⟩
  let disk ← Main.readDisk cwd (named ++ touched)
  let report := runOn disk
  Main.writeDisk disk report.session.disk
  (← IO.getStdout).write ⟨report.session.output.toArray⟩
  IO.eprint report.errors
  match report.escaped with
  | some why => IO.eprintln why.message
  | none => pure ()
  return report.status.toUInt32
