import Transplant.Workflow.Helper

/-!
# Workflow strategies

The algorithm of each mode: one destination change for everything, one for each origin change, or one
on top of a baseline. A run reports what was written; options and default author come from
the settings of the run, or from the helper when there are none.
-/

namespace Transplant.Workflow

/-- The outcome of a run. -/
structure Result where
  mode : Mode
  migrated : List String := []
  skippedEmpty : List String := []
  baseline : Option String := none
  completed : Bool := false
deriving DecidableEq, Repr

/-- The workflow options in force. -/
def optionsOf (settings : Option Settings) (h : Helper) : Except Failure Settings.Workflow :=
  settings.elim h.options configuredOptions

/-- The default author in force. -/
def authorOf (settings : Option Settings) (h : Helper) : Except Failure Author :=
  settings.elim h.defaultAuthor configuredAuthor

/-! ## One change for all -/

/-- Writes one destination change for everything up to the resolved reference. Individual authors are
discarded. -/
def squash (settings : Option Settings) (h : Helper) : Act Result := do
  let ref := h.resolvedReference
  log .info Mode.squash.component ("Squashing changes up to " ++ ref)
  let options ← settle (optionsOf settings h)
  let author ← settle (authorOf settings h)
  let _ ← h.write
    { ref := ref
      console := Helper.console
      metadata := ⟨options.squashMessage, author⟩
      view := .deferred
      baseline := none }
  return { mode := .squash, migrated := [ref], completed := true }

/-! ## One change for each -/

/-- The label of the change at a position. -/
def positionLabel (number total : Nat) (ref : String) : String :=
  "Change " ++ Text.decimal number ++ " of " ++ Text.decimal total ++ " (" ++ ref ++ "): "

/-- What became of a change that was handed to the helper. -/
inductive Attempt where
  | written (answer : Written)
  | empty

/-- The migrate call for one change, with the changes before it in the view, the latest first. -/
def migrateOne (h : Helper) (label : String) (c : Change) (before : List Change) : Act Written := do
  let view ← settle (Computed.of [c] before)
  h.write
    { ref := c.ref
      console := .labelled label Helper.console
      metadata := c.metadata
      view := .computed view
      baseline := none }

/-- Migrates one change; a change without effect is reported and passed over. -/
def attempt (h : Helper) (label : String) (c : Change) (before : List Change) : Act Attempt :=
  tryCatch (Attempt.written <$> migrateOne h label c before) fun why => do
    if why.kind.isA .emptyChange then
      say Helper.console .warn why.message
      log .warning Mode.iterative.component (label ++ why.message)
      return .empty
    else throw why

/-- Asks whether to go on after a change; a no ends the run. -/
def confirmContinuation (label : String) (migrated : List String) (last : String) : Act Unit := do
  if !(← ask Helper.console "Continue importing next change?") then
    let message := "Iterative workflow aborted by user after: " ++ label
    say Helper.console .warn message
    throw (.rejected message migrated (some last))

/-- Migrates the remaining changes, the first of which has the given number. `before` holds the
changes already handled, the latest first. -/
def iterateFrom (h : Helper) (total : Nat) :
    (number : Nat) → (before : List Change) → Result → List Change → Act Result
  | _, _, result, [] => return { result with completed := true }
  | number, before, result, c :: rest => do
    let label := positionLabel number total c.ref
    match ← attempt h label c before with
    | .empty =>
      iterateFrom h total (number + 1) (c :: before)
        { result with skippedEmpty := result.skippedEmpty ++ [c.ref] } rest
    | .written answer =>
      let result := { result with migrated := result.migrated ++ [c.ref] }
      if answer == .promptToContinue && number < total then
        confirmContinuation label result.migrated c.ref
      iterateFrom h total (number + 1) (c :: before) result rest

/-- Writes one destination change for each origin change, the oldest first. -/
def iterative (h : Helper) : Act Result := do
  let changes ← h.importedChanges
  log .info Mode.iterative.component
    ("Importing " ++ Text.decimal changes.length ++ " change(s) iteratively")
  iterateFrom h changes.length 1 [] { mode := .iterative } changes

/-! ## One change on a baseline -/

/-- Looks at a change for the recorded origin reference. -/
def lookForLabel (label : String) : History.Visitor (Run × Option String) := fun c => do
  modify fun (r, found) => ({ r with log := r.log ++ [.visit c.ref] }, found)
  match c.label? label with
  | none => return .proceed
  | some value =>
    modify fun (r, _) => (r, some value)
    return .terminate

/-- The most recent origin reference recorded in the history of a reference. -/
def findBaseline (h : Helper) (ref : String) : Act (Option String) := do
  let r ← get
  let (outcome, r', found) := (History.visit h.history ref (lookForLabel h.originLabel)).run.run (r, none)
  set r'
  settle outcome
  return found

/-- A baseline that is there and not empty. -/
def usable (baseline : Option String) : Option String :=
  baseline.filter fun b => !b.isEmpty

/-- Writes the change of the resolved reference on top of a baseline of the destination. -/
def changeRequest (settings : Option Settings) (h : Helper) : Act Result := do
  let ref := h.resolvedReference
  let options ← settle (optionsOf settings h)
  let baseline ← match usable options.changeBaseline with
    | some b => pure (some b)
    | none => usable <$> findBaseline h ref
  match baseline with
  | none => throw .noBaseline
  | some baseline =>
    log .info Mode.changeRequest.component ("Using " ++ baseline ++ " as baseline for " ++ ref)
    let c ← settle (History.change h.history ref)
    let view ← settle (Computed.of [c] [])
    let _ ← h.write
      { ref := ref
        console := Helper.console
        metadata := c.metadata
        view := .computed view
        baseline := some baseline }
    return { mode := .changeRequest, migrated := [ref], baseline := some baseline, completed := true }

/-! ## All modes -/

/-- Runs a mode against a helper. -/
def runMode (mode : Mode) (settings : Option Settings) (h : Helper) : Act Result :=
  match mode with
  | .squash => squash settings h
  | .iterative => iterative h
  | .changeRequest => changeRequest settings h
  | .mirror => throw (.notImplemented .mirror)

end Transplant.Workflow
