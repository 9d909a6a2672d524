import Transplant.Change
import Transplant.Settings.Basic

/-!
# Settings as data

Settings are built from a mapping of sections, each checked field by field, and written back as
such a mapping. Names are accepted in any case and identities with stray blanks; the mapping that
is written has them in their normal form.
-/

namespace Transplant.Settings

open Schema

/-! ## Fields -/

/-- Checks the name of a mode, in any case. -/
def checkMode (d : Data) : Checked Mode := do
  let s ← readText d
  Checked.orRefuse d .unknownMode (Mode.ofAnyCase? s)

/-- Checks a baseline; a blank one counts as none. -/
def checkBaseline (d : Data) : Checked (Option String) := do
  let s ← readText? d
  return s.filter fun b => !Text.allBlank b

/-- Checks an identity. -/
def checkIdentity (d : Data) : Checked Author := do
  let s ← readText d
  Checked.orRefuse d (.malformedIdentity s) (Author.parse? s)

/-- Checks a number of leading path components, which is not negative. -/
def checkStrip (d : Data) : Checked Nat := do
  let n ← readInt d
  if n < 0 then Checked.fail (.refused .negativeStrip) d else .ok n.toNat

/-- Checks a number of seconds, which is positive. -/
def checkTimeout (d : Data) : Checked { n : Nat // 0 < n } := do
  let n ← readInt d
  if h : 0 < n.toNat then .ok ⟨n.toNat, h⟩ else Checked.fail (.refused .timeoutNotPositive) d

/-- Checks the name of a log level, in any case. -/
def checkLevel (d : Data) : Checked Log.Level := do
  let s ← readText d
  Checked.orRefuse d .unknownLevel
    (Log.Level.configurable.find? fun l => l.name == Text.upper s)

/-! ## Sections -/

/-- Checks the workflow section. -/
def Workflow.check (d : Data) : Checked Workflow :=
  record .workflow d fun es =>
    let base : Workflow := {}
    Checked.map3 Workflow.mk
      (field es "mode" (some base.mode) checkMode)
      (field es "change_baseline" (some base.changeBaseline) checkBaseline)
      (field es "squash_message" (some base.squashMessage) readText)

/-- Checks the authoring section. -/
def Authoring.check (d : Data) : Checked Authoring :=
  record .authoring d fun es =>
    let base : Authoring := {}
    (field es "default_author" (some base.defaultAuthor) checkIdentity).map Authoring.mk

/-- Checks the diff section. -/
def Diff.check (d : Data) : Checked Diff :=
  record .diff d fun es =>
    let base : Diff := .standard
    Checked.map5
      (fun binary excluded strip verbose (timeout : { n : Nat // 0 < n }) =>
        (⟨binary, excluded, strip, verbose, timeout.1, timeout.2⟩ : Diff))
      (field es "git_binary" (some base.gitBinary) readText)
      (field es "excluded_paths" (some base.excludedPaths) readTexts)
      (field es "strip_slashes" (some base.stripSlashes) checkStrip)
      (field es "verbose" (some base.verbose) readBool)
      (field es "timeout" (some ⟨base.timeout, base.timeout_pos⟩) checkTimeout)

/-- Checks the logging section. -/
def Logging.check (d : Data) : Checked Logging :=
  record .logging d fun es =>
    let base : Logging := {}
    Checked.map3 Logging.mk
      (field es "level" (some base.level) checkLevel)
      (field es "file" (some base.file) readText?)
      (field es "format" (some base.format) readText)

/-- The sections of the settings. -/
def sections : List String :=
  ["workflow", "authoring", "diff", "logging"]

/-- Whether a key names a section. -/
def isSection : Data → Bool
  | .text s => sections.contains s
  | _ => false

/-- Refuses the entries whose keys name no section. -/
def checkKeys (entries : List (Data × Data)) : Checked Unit :=
  match entries.filter fun e => !isSection e.1 with
  | [] => .ok ()
  | extra => .error (extra.map fun e => ⟨[keyStep e.1], .unexpected, e.2⟩)

/-- Checks the settings as a whole. -/
def check (d : Data) : Checked Settings :=
  record .settings d fun es =>
    Checked.map5 (fun workflow authoring diff logging (_ : Unit) => ⟨workflow, authoring, diff, logging⟩)
      (field es "workflow" (some {}) Workflow.check)
      (field es "authoring" (some {}) Authoring.check)
      (field es "diff" (some .standard) Diff.check)
      (field es "logging" (some {}) Logging.check)
      (checkKeys es)

/-- Builds settings from data. -/
def ofData (d : Data) : Except Report Settings :=
  report .settings (check d)

/-- Builds a workflow section from data. -/
def Workflow.ofData (d : Data) : Except Report Workflow :=
  report .workflow (Workflow.check d)

/-- Builds an authoring section from data. -/
def Authoring.ofData (d : Data) : Except Report Authoring :=
  report .authoring (Authoring.check d)

/-- Builds a diff section from data. -/
def Diff.ofData (d : Data) : Except Report Diff :=
  report .diff (Diff.check d)

/-- Builds a logging section from data. -/
def Logging.ofData (d : Data) : Except Report Logging :=
  report .logging (Logging.check d)

/-! ## Data of settings -/

/-- The data of a workflow section. -/
def Workflow.toData (w : Workflow) : Data :=
  .ofFields
    [ ("mode", .text w.mode.name)
    , ("change_baseline", .ofText? w.changeBaseline)
    , ("squash_message", .text w.squashMessage) ]

/-- The data of an authoring section. -/
def Authoring.toData (a : Authoring) : Data :=
  .ofFields [("default_author", .text a.defaultAuthor.text)]

/-- The data of a diff section. -/
def Diff.toData (s : Diff) : Data :=
  .ofFields
    [ ("git_binary", .text s.gitBinary)
    , ("excluded_paths", .ofTexts s.excludedPaths)
    , ("strip_slashes", .int s.stripSlashes)
    , ("verbose", .bool s.verbose)
    , ("timeout", .int s.timeout) ]

/-- The data of a logging section. -/
def Logging.toData (l : Logging) : Data :=
  .ofFields
    [ ("level", .text l.level.name)
    , ("file", .ofText? l.file)
    , ("format", .text l.format) ]

/-- The data of settings. -/
def toData (s : Settings) : Data :=
  .ofFields
    [ ("workflow", s.workflow.toData)
    , ("authoring", s.authoring.toData)
    , ("diff", s.diff.toData)
    , ("logging", s.logging.toData) ]

end Transplant.Settings
