import Transplant.Command.Signature

/-!
# The commands

The commands of the program with their signatures, and the signature of the program itself.
-/

namespace Transplant.Command

/-- The name of the program. -/
def program : String := "tree-migrate"

/-- The line that tells the version of the program. -/
def versionLine : String := program ++ ", version 0.1.0\n"

/-- What the program can be told to do. -/
inductive Verb where
  | diff
  | init
  | modes
  | patch
  | status
deriving DecidableEq, Repr

namespace Verb

/-- The verbs in the order in which the page of the program lists them. -/
def all : List Verb :=
  [.diff, .init, .modes, .patch, .status]

/-- The word for a verb. -/
def name : Verb → String
  | .diff => "diff"
  | .init => "init"
  | .modes => "modes"
  | .patch => "patch"
  | .status => "status"

/-- The verb for a word. -/
def ofName? (word : String) : Option Verb :=
  all.find? fun v => v.name == word

/-- What a verb does. -/
def summary : Verb → String
  | .diff => "Diff two sibling directories LEFT and RIGHT."
  | .init => "Initialize a new configuration file."
  | .modes => "List the available workflow modes."
  | .patch => "Apply DIFF_FILE to the TARGET directory."
  | .status => "Show the loaded configuration."

/-- The switches of a verb. -/
def switches : Verb → List Switch
  | .diff =>
    [ { long := "--output", letter := some 'o', effect := .value (.path .file false)
        summary := "Write the diff to a file instead of stdout" } ]
  | .init =>
    [ { long := "--output", letter := some 'o', effect := .value .text
        summary := "Output configuration file path" } ]
  | .patch =>
    [ { long := "--exclude", letter := some 'e', effect := .value .text
        summary := "Glob pattern of paths to leave untouched (repeatable)" }
    , { long := "--strip", letter := some 'p', effect := .value .number
        summary := "Leading path components to drop from diff paths" }
    , { long := "--reverse", letter := some 'R', effect := .on
        summary := "Undo a previously applied diff" } ]
  | .modes | .status => []

/-- The arguments of a verb. -/
def arguments : Verb → List Argument
  | .diff => [⟨"LEFT", .path .directory true⟩, ⟨"RIGHT", .path .directory true⟩]
  | .patch => [⟨"TARGET", .path .directory true⟩, ⟨"DIFF_FILE", .path .file true⟩]
  | .init | .modes | .status => []

/-- The signature of a verb. -/
def signature (v : Verb) : Signature :=
  { call := program ++ " " ++ v.name
    summary := v.summary
    switches := v.switches ++ [helpSwitch]
    arguments := v.arguments }

end Verb

/-- The signature of the program. -/
def signature : Signature :=
  { call := program
    summary := "Tree Migrate - Replay origin repository changes into a destination."
    switches :=
      [ { long := "--version", effect := .version, summary := "Show the version and exit." }
      , { long := "--config", letter := some 'c', effect := .value (.path .any true)
          summary := "Path to configuration file" }
      , { long := "--verbose", letter := some 'v', effect := .on, summary := "Enable verbose logging" }
      , helpSwitch ]
    commands := Verb.all.map fun v => (v.name, v.summary) }

end Transplant.Command
