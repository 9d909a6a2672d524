import Transplant.Console
import Transplant.Log.Record
import Transplant.Workflow.View

/-!
# Runs

The record of a workflow run: every event in order, the answers that the operator has still to give
and what the deferred view has found. A step of a run extends the record and returns or fails.
-/

namespace Transplant.Workflow

/-- The answer of a migrate call that was written. -/
inductive Written where
  | ok
  | promptToContinue
deriving DecidableEq, Repr

/-- The answer named by a text. -/
def Written.ofText (s : String) : Except Failure Written :=
  if s == "ok" then .ok .ok
  else if s == "prompt_to_continue" then .ok .promptToContinue
  else .error (.unknownResult (Text.quoted s))

/-- The arguments of a migrate call. -/
structure Call where
  ref : String
  console : Console Unit
  metadata : Metadata
  view : View
  baseline : Option String

/-- Something that happened in a run and can be observed from outside. -/
inductive Event where
  | history
  | visit (ref : String)
  | migrate (call : Call)
  | read (side : Side) (answer : Except Failure (List Change))
  | said (channel : Channel) (text : String)
  | asked (text : String) (answer : Bool)
  | logged (record : Log.Record)

/-- The state of a run. -/
structure Run where
  log : List Event := []
  answers : List Bool := []
  cell : Cell := .unsettled

/-- A step of a run, which may fail. -/
abbrev Act := ExceptT Failure (StateM Run)

/-- A step from a given state: its outcome and the state after it. -/
def Act.exec {α : Type} (act : Act α) (run : Run) : Except Failure α × Run :=
  act.run.run run

/-- Records an event. -/
def emit (e : Event) : Act Unit :=
  modify fun r => { r with log := r.log ++ [e] }

/-- Writes a record to the log. -/
def log (level : Log.Level) (component message : String) : Act Unit :=
  emit (.logged ⟨level, some component, message⟩)

/-- Shows a text on a console. -/
def say (console : Console Unit) (channel : Channel) (text : String) : Act Unit :=
  emit (.said channel (console.decorate text))

/-- Asks a question on a console; without an answer left it counts as declined. -/
def ask (console : Console Unit) (text : String) : Act Bool := do
  let r ← get
  let answer := r.answers.headD false
  set { r with answers := r.answers.tail }
  emit (.asked (console.decorate text) answer)
  return answer

/-- The outcome of a step that has already been decided. -/
def settle {α : Type} : Except Failure α → Act α
  | .ok a => pure a
  | .error e => throw e

end Transplant.Workflow
