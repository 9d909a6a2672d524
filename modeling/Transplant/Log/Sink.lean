import Transplant.Failure
import Transplant.Log.Layout
import Transplant.Settings.Basic

/-!
# Log sinks

Where records go: to the console in colours, and to a file without. Setting up the sinks can fail, also
after the file has been created. The first record tells the level and the file.
-/

namespace Transplant.Log

/-- The file of a log: the path that was asked for, the one that it describes, and the layout. -/
structure FileSink where
  asked : String
  path : String
  layout : Layout

/-- The sinks of a log. -/
structure Sinks where
  level : Level
  console : Layout
  file : Option FileSink

/-- The sinks that were asked for, or why there are none; the path whose directory was made, and the file
that was created. -/
structure Setup where
  asked : Option String := none
  created : Option String := none
  sinks : Except Failure Sinks

/-- The format of a log that asks for none. -/
def consoleFormat : String :=
  "<green>\x7btime:HH:mm:ss\x7d</green> | <level>\x7blevel: <8\x7d</level> | " ++
    "<cyan>\x7bextra[component]\x7d</cyan> | <level>\x7bmessage\x7d</level>"

/-- A text that is there and not empty. -/
def given? (s : Option String) : Option String :=
  s.filter fun s => !s.isEmpty

/-- Sets up the sinks for records of a level, a file and a format. -/
def setUp (level : String) (file format : Option String) : Setup :=
  let format := (given? format).getD consoleFormat
  match Level.ofName? level with
  | none => { sinks := .error (.unknownLevel level) }
  | some l =>
    match Layout.parse? format, given? file with
    | none, _ => { sinks := .error .badLayout }
    | some console, none => { sinks := .ok ⟨l, console, none⟩ }
    | some console, some asked =>
      match placeOf asked, Layout.parse? (plainFormat format) with
      | .error why, _ => { asked, sinks := .error (.place why) }
      | .ok path, none => { asked, created := path, sinks := .error .badLayout }
      | .ok path, some plain =>
        { asked, created := path, sinks := .ok ⟨l, console, some ⟨asked, path, plain⟩⟩ }

/-- Sets up the sinks that settings ask for; a verbose log has all records from debugging on. -/
def configure (s : Settings.Logging) (verbose : Bool) : Setup :=
  setUp (if verbose then "DEBUG" else s.level.name) s.file (some s.format)

namespace Sinks

/-- The record that tells where the log goes. -/
def firstRecord (s : Sinks) : Record :=
  let place := match s.file with
    | some file => " to " ++ file.asked
    | none => ""
  ⟨.debug, some "logging", "Logging at " ++ s.level.name ++ place⟩

/-- The lines of the records that a layout shows, from a level on. -/
def lines (s : Sinks) (l : Layout) (coloured : Bool) (records : List Record) : String :=
  let taken := records.filter fun r => s.level.weight ≤ r.level.weight
  String.ofList (taken.flatMap fun r => (l.render? coloured r).getD [])

/-- What some records add to the console. -/
def consoleText (s : Sinks) (records : List Record) : String :=
  s.lines s.console true records

/-- What some records add to the file, and its path. -/
def fileText (s : Sinks) (records : List Record) : Option (String × String) :=
  s.file.map fun file => (file.path, s.lines file.layout false records)

end Sinks

end Transplant.Log
