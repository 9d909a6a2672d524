import Transplant.History
import Transplant.Settings.Check
import Transplant.Workflow.Run

/-!
# Run helpers

The collaborator that a workflow runs against: it resolves references, knows the origin's history and
writes to the destination. What it does may depend on everything that happened before. A migrate call
is a program that talks to the console, reads its view and ends with an answer or a failure.
-/

namespace Transplant.Workflow

/-- What a migrate call does, step by step. -/
inductive Program where
  | finish (outcome : Except Failure Written)
  | say (channel : Channel) (text : String) (next : Program)
  | ask (text : String) (next : Bool → Program)
  | read (side : Side) (next : Except Failure (List Change) → Program)

/-- The boundary between a workflow and the adapters of origin and destination. -/
structure Helper where
  /-- The origin reference being migrated. -/
  resolvedReference : String
  /-- The origin changes not yet imported, the oldest first, given the events so far. -/
  changesSinceLastImport : List Event → Except Failure (List Change)
  /-- The history in which a baseline is looked for, the most recent change first. -/
  history : List Change
  /-- What a migrate call does, given the events so far. -/
  migrate : List Event → Call → Program
  /-- The label under which the destination records the origin reference. -/
  originLabel : String
  /-- The author of changes whose own authors are discarded. -/
  defaultAuthor : Except Failure Author
  /-- The workflow options of a run without settings of its own. -/
  options : Except Failure Settings.Workflow

/-- The default author that a configuration supplies, read from the text that it holds. -/
def configuredAuthor (settings : Settings) : Except Failure Author :=
  (Author.parse settings.authoring.defaultAuthor.text).mapError .refused

/-- The workflow options that a configuration supplies. -/
def configuredOptions (settings : Settings) : Except Failure Settings.Workflow :=
  .ok settings.workflow

namespace Helper

/-- The console without labels. -/
def console : Console Unit := .base ()

/-- Asks for the changes since the last import, which is recorded. -/
def importedChanges (h : Helper) : Act (List Change) := do
  emit .history
  settle (h.changesSinceLastImport (← get).log)

/-- The words of the warning that a history could not be resolved. -/
def unresolvedWarning (why : Failure) : String :=
  "Previous reference could not be resolved. Cannot compute the set of changes in the migration: " ++
    why.message

/-- The current changes of the deferred view. The first list settles them; a history that cannot be
resolved counts as empty and is reported once. -/
def deferredChanges (h : Helper) : Act (List Change) := do
  match (← get).cell with
  | .settled changes _ => return changes
  | .unsettled =>
    try
      let changes ← h.importedChanges
      modify fun r => { r with cell := .settled changes none }
      return changes
    catch why =>
      if why.kind.isA .repository then
        let warning := unresolvedWarning why
        log .warning "LazyChanges" warning
        say console .warn warning
        modify fun r => { r with cell := .settled [] (some warning) }
        return []
      else throw why

/-- Reads one side of a view. -/
def readView (h : Helper) (view : View) (side : Side) : Act (List Change) :=
  match view, side with
  | .computed v, .current => return v.current
  | .computed v, .migrated => return v.migrated
  | .deferred, .current => h.deferredChanges
  | .deferred, .migrated => return []

/-- Whether a read ended with an answer; one that ends by what is no error, such as an interrupt, has none. -/
def isAnswer : Except Failure (List Change) → Bool
  | .ok _ => true
  | .error why => why.kind.isError

/-- Reads one side of a view and records what it answered. -/
def observe (h : Helper) (view : View) (side : Side) : Act (Except Failure (List Change)) := do
  let answer ← tryCatch (Except.ok <$> h.readView view side) fun why => return .error why
  if isAnswer answer then emit (.read side answer)
  return answer

/-- Does what a migrate call does. -/
def perform (h : Helper) (call : Call) : Program → Act Written
  | .finish outcome => settle outcome
  | .say channel text next => do
    say call.console channel text
    h.perform call next
  | .ask text next => do
    let answer ← ask call.console text
    h.perform call (next answer)
  | .read side next => do
    let answer ← h.observe call.view side
    h.perform call (next answer)

/-- Makes a migrate call, which is recorded. -/
def write (h : Helper) (call : Call) : Act Written := do
  let before := (← get).log
  emit (.migrate call)
  h.perform call (h.migrate before call)

/-- The calls among some events. -/
def calls (events : List Event) : List Call :=
  events.filterMap fun
    | .migrate call => some call
    | _ => none

/-- Reads a side of the view of the call at an index again; without such a call nothing happens. -/
def reread (h : Helper) (index : Nat) (side : Side) : Act Unit := do
  match (calls (← get).log)[index]? with
  | some call => let _ ← h.observe call.view side
  | none => pure ()

end Helper

end Transplant.Workflow
