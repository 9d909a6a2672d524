import Transplant.Command.Invocation
import Transplant.Command.Session
import Transplant.Settings.Environment
import Transplant.Settings.File
import Transplant.Terminal.Table
import Transplant.Tree.Delta

/-!
# Running commands

What each command does. A failure is told on the standard output and ends the command with status 1; the
status is 0 if all went well. A message whose markup makes no sense cannot be told, and its fault
escapes.
-/

namespace Transplant.Command

variable [Terminal.Lexicon]

/-! ## Settings -/

/-- The files in which settings are looked for, in this order. -/
def settingsFiles : List String :=
  ["tree-migrate.yaml", "tree-migrate.yml", ".tree-migrate.yaml"]

/-- The settings in a file. A name that is too long to be looked up is told apart from a missing file. -/
def loadFile (file : String) : Step Settings := do
  let s ← get
  let l := Disk.Location.ofText file
  match s.disk.lookUp (l.absolute s.directory) with
  | .error .nameTooLong => throw (.disk .nameTooLong l.text)
  | .error _ => settle (Settings.ofFile file none)
  | .ok _ => settle (Settings.ofFile file (some (← readFile file)))

/-- The settings of an invocation: those in the file that it names, else those in the first file that is
there, else those in the environment. -/
def loadSettings (config : Option String) : Step Settings := do
  let s ← get
  let isThere (file : String) : Bool :=
    (s.disk.lookUp ((Disk.Location.ofText file).absolute s.directory)).toOption.isSome
  match Log.given? config <|> settingsFiles.find? isThere with
  | some file => loadFile file
  | none => settle (Settings.ofEnvironment s.environment)

/-- Writes settings to a file. Where one of their numbers cannot be written, the file is left empty. -/
def saveSettings (file : String) (s : Settings) : Step Unit := do
  makeDirectoryOf file
  match s.checkNumbers with
  | .ok () => writeFile file (Text.encodeUtf8 s.toFile)
  | .error why => do
    writeFile file []
    throw (.badNumeral why)

/-! ## Messages -/

/-- The message of something done. -/
def success (text : String) : String :=
  "[green]✓[/green] " ++ text

/-- The message of something not done. -/
def lament (text : String) : String :=
  "[red]✗[/red] " ++ text

/-- Does something and tells of its failure; the result is the exit status. -/
def attempt (body : Step Unit) (excuse : Failure → String) : Step Nat := do
  try
    body
    return 0
  catch why =>
    print (lament (excuse why))
    return 1

/-! ## Commands -/

/-- Writes a settings file to start with. -/
def init (output : String) : Step Nat := do
  let lines := ["Tree Migrate".toList, "Initializing configuration...".toList]
  display (.ok (String.ofList ((Terminal.panel lines).flatMap (· ++ ['\n']))))
  attempt
    (do
      saveSettings output Settings.template
      print (success ("Configuration template created at: " ++ output))
      print ("[yellow]Please edit " ++ output ++ " to match your migration[/yellow]"))
    fun why => "Failed to create configuration: " ++ why.message

/-- Takes the difference of two sibling directories. -/
def diff (config : Option String) (verbose : Bool) (left right : String) (output : Option String) : Step Nat :=
  attempt
    (do
      let settings ← loadSettings config
      startLog settings.logging verbose
      let s ← get
      let contents ← perform
        (Tree.diff settings.diff s.directory s.tool left right (verbose || settings.diff.verbose))
      match Log.given? output with
      | some file =>
        writeFile file contents
        print (success ("Diff written to: " ++ file))
      | none => echo contents)
    fun why => "Diff failed: " ++ why.message

/-- How a difference is replayed: patterns given on the command line come after those of the settings, and
a number of components given there counts instead of theirs. -/
def patchOptions (settings : Settings.Diff) (verbose : Bool) (exclude : List String) (strip : Option Int)
    (reverse : Bool) : Tree.PatchOptions :=
  { stripSlashes := strip.getD settings.stripSlashes
    excludedPaths := settings.excludedPaths ++ exclude
    verbose := verbose || settings.verbose
    reverse := reverse }

/-- The excuse for a replay that failed: a conflict is told by its place and the tool's messages. -/
def patchExcuse : Failure → String
  | .conflict _ path _ stderr => "Patch does not apply to " ++ path.getD "None" ++ ": " ++ stderr
  | why => "Patch failed: " ++ why.message

/-- Replays a difference onto a directory. -/
def patch (config : Option String) (verbose : Bool) (target diffFile : String) (exclude : List String)
    (strip : Option Int) (reverse : Bool) : Step Nat :=
  attempt
    (do
      let settings ← loadSettings config
      startLog settings.logging verbose
      let contents ← readFile diffFile
      let s ← get
      perform (Tree.patch settings.diff s.directory s.tool target contents
        (patchOptions settings.diff verbose exclude strip reverse))
      print (success ((if reverse then "Reverted " else "Applied ") ++ diffFile ++ " on " ++ target)))
    patchExcuse

/-- The table of the workflow modes. -/
def modesTable : Terminal.Table :=
  { title := "Workflow Modes"
    heads := ["Mode", "Description"]
    rows := Mode.all.map fun m => [m.name, m.description] }

/-- Lists the workflow modes. -/
def modes : Step Nat := do
  display (modesTable.print terminalWidth)
  return 0

/-- A text, or a dash for none. -/
def orDash (s : String) : String :=
  if s.isEmpty then "-" else s

/-- The table of some settings, unless one of their numbers cannot be written. -/
def statusTable (s : Settings) : Except Numeral.Fault Terminal.Table := do
  let strip ← Numeral.write s.diff.stripSlashes
  return {
    title := "Migration Configuration"
    heads := ["Setting", "Value"]
    rows :=
      [ ["Workflow Mode", s.workflow.mode.name]
      , ["Change Baseline", orDash (s.workflow.changeBaseline.getD "")]
      , ["Default Author", s.authoring.defaultAuthor.text]
      , ["Git Binary", s.diff.gitBinary]
      , ["Strip Slashes", strip]
      , ["Excluded Paths", orDash (", ".intercalate s.diff.excludedPaths)]
      , ["Log Level", s.logging.level.name] ] }

/-- Shows the settings. With `--verbose` a failure is followed by a trace of the calls that led to it, which is left
out here. -/
def status (config : Option String) : Step Nat :=
  attempt
    (do
      let settings ← loadSettings config
      let table ← settle ((statusTable settings).mapError .badNumeral)
      display (table.print terminalWidth))
    fun why => "Failed to load status: " ++ why.message

/-- Does what an invocation asks for; the result is the exit status. -/
def act (i : Invocation) : Step Nat :=
  match i.action with
  | .init output => init output
  | .diff left right output => diff i.config i.verbose left right output
  | .patch target diffFile exclude strip reverse =>
    patch i.config i.verbose target diffFile exclude strip reverse
  | .modes => modes
  | .status => status i.config

/-! ## The program -/

/-- What a run of the program leaves behind: its exit status, the session, what is told on the standard
error, and the failure that escaped. -/
structure Report where
  status : Nat
  session : Session
  errors : String := ""
  escaped : Option Failure := none

/-- The report of a command line about which nothing is done. -/
def Stop.report (stop : Stop) (s : Signature) (session : Session) : Report :=
  let saying (text : String) : Session :=
    { session with output := session.output ++ Text.encodeUtf8 text }
  match stop with
  | .help => { status := 0, session := saying s.page }
  | .version => { status := 0, session := saying versionLine }
  | .bare => { status := 2, session := session, errors := s.page }
  | .misuse why => { status := 2, session := session, errors := why.text s }
  | .disk why => { status := 1, session := session, escaped := some (.disk why "") }

/-- Runs the program with the words of a command line. -/
def run (session : Session) (words : List String) : Report :=
  match Invocation.read session.disk session.directory words with
  | .error (s, stop) => stop.report s session
  | .ok invocation =>
    match (act invocation).exec session with
    | (.ok status, after) => { status := status, session := after }
    | (.error why, after) => { status := 1, session := after, escaped := some why }

end Transplant.Command
