import Transplant.Data.Prune
import Transplant.Environment.File
import Transplant.Failure
import Transplant.Settings.Check

/-!
# Settings from the environment

Every variable sets one field, and a variable that is not set leaves its field at the default. The
numeral of the strip count is read first; all other values are checked together.
-/

namespace Transplant.Settings

/-- The patterns in a comma-separated list; blanks around them and blank pieces do not count. -/
def patternList (s : String) : List String :=
  ((Text.splitOn ',' s.toList).map (Text.trimBy Text.isBlank)).filterMap fun piece =>
    if piece.isEmpty then none else some (String.ofList piece)

/-- A value that is set and not empty. -/
def nonEmpty? (value : Option String) : Option String :=
  value.filter fun s => !s.isEmpty

/-- The data that an environment supplies, with null for what it does not set. -/
def environmentData (env : Environment) (strip : Option Int) : Data :=
  let text (name : String) : Data := .ofText? (env.get? name)
  .ofFields
    [ ("workflow", .ofFields
        [("mode", text "MIGRATE_MODE"), ("change_baseline", text "MIGRATE_CHANGE_BASELINE")])
    , ("authoring", .ofFields [("default_author", text "MIGRATE_DEFAULT_AUTHOR")])
    , ("diff", .ofFields
        [ ("git_binary", text "GIT_BINARY")
        , ("strip_slashes", strip.elim .null .int)
        , ("excluded_paths",
            (nonEmpty? (env.get? "DIFF_EXCLUDED_PATHS")).elim .null fun s => .ofTexts (patternList s))
        , ("verbose", .bool (Text.asciiLower ((env.get? "DIFF_VERBOSE").getD "false") == "true")) ])
    , ("logging", .ofFields
        [("level", .text ((env.get? "LOG_LEVEL").getD "INFO")), ("file", text "LOG_FILE")]) ]

/-- The strip count that an environment sets. -/
def environmentStrip (env : Environment) : Except Failure (Option Int) :=
  match nonEmpty? (env.get? "DIFF_STRIP_SLASHES") with
  | none => .ok none
  | some s => ((Numeral.parse s).map some).mapError .badNumeral

/-- The settings that an environment describes. -/
def ofEnvironment (env : Environment) : Except Failure Settings := do
  let strip ← environmentStrip env
  (ofData (environmentData env strip).prune).mapError .invalid

end Transplant.Settings
