import Transplant.Workflow.Strategy

/-!
# The workflow engine

Runs the selected mode with the engine's settings and logs how the run begins and ends. A failure that is no
error, such as an interrupt or an exit, passes without a closing record.
-/

namespace Transplant.Workflow.Engine

/-- The mode that is asked for by name, or else the configured one. -/
def select (settings : Settings) (mode : Option String) : Except Failure Mode :=
  match mode.filter fun s => !s.isEmpty with
  | none => .ok settings.workflow.mode
  | some s =>
    match Mode.ofAnyCase? s with
    | some m => .ok m
    | none => .error (.unknownMode (Text.quoted (Text.upper s)))

/-- The component under which the engine logs. -/
def component : String := "WorkflowEngine"

/-- Records how a run failed, if it did by a rejection or another error. -/
def logFailure (mode : Mode) (why : Failure) : Act Unit :=
  if why.kind.isA .rejected then
    log .warning component ("Workflow stopped by user: " ++ why.message)
  else if why.kind.isError then
    log .error component (mode.name ++ " workflow failed: " ++ why.message)
  else pure ()

/-- Records how a run ended. -/
def logResult (mode : Mode) (result : Result) : Act Unit :=
  log .info component
    (mode.name ++ " workflow completed: " ++ Text.decimal result.migrated.length ++ " migrated, " ++
      Text.decimal result.skippedEmpty.length ++ " skipped as empty")

/-- Runs a workflow. -/
def run (settings : Settings) (h : Helper) (mode : Option String) : Act Result := do
  let mode ← settle (select settings mode)
  log .info component ("Starting " ++ mode.name ++ " workflow")
  let result ← tryCatch (runMode mode (some settings) h) fun why => do
    logFailure mode why
    throw why
  logResult mode result
  return result

end Transplant.Workflow.Engine
