import Transplant.Author
import Transplant.Log.Level
import Transplant.Mode

/-!
# Settings

What an operator can configure: the workflow, the author of squashed changes, the diff tool and the
log. The types admit only settings with which a run can start.
-/

namespace Transplant

namespace Settings

/-- The workflow to run and its overrides. -/
structure Workflow where
  mode : Mode := .squash
  changeBaseline : Option String := none
  squashMessage : String := "Project import generated by tree-migrate.\n"
deriving DecidableEq, Repr, Inhabited

/-- The author of changes whose own authors are discarded. -/
structure Authoring where
  defaultAuthor : Author := ⟨"Tree Migrate", "migrate@localhost"⟩
deriving DecidableEq, Repr, Inhabited

/-- How trees are compared and patched. -/
structure Diff where
  gitBinary : String := "git"
  excludedPaths : List String := []
  stripSlashes : Nat := 2
  verbose : Bool := false
  timeout : Nat := 600
  timeout_pos : 0 < timeout := by decide
deriving DecidableEq, Repr

/-- How trees are compared and patched where nothing is said about it. -/
def Diff.standard : Diff := {}

instance : Inhabited Diff := ⟨.standard⟩

/-- What is logged, where and how. -/
structure Logging where
  level : Log.Level := .info
  file : Option String := none
  format : String :=
    "\x7btime:YYYY-MM-DD HH:mm:ss\x7d | \x7blevel: <8\x7d | \x7bextra[component]\x7d | \x7bmessage\x7d"
deriving DecidableEq, Repr, Inhabited

end Settings

/-- The settings of a migration. -/
structure Settings where
  workflow : Settings.Workflow := {}
  authoring : Settings.Authoring := {}
  diff : Settings.Diff := .standard
  logging : Settings.Logging := {}
deriving DecidableEq, Repr, Inhabited

end Transplant
