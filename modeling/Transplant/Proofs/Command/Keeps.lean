import Transplant.Proofs.Command.Exec

/-!
# What steps leave alone

Steps that write files or the log change nothing else. A part of the session that is neither on the disk nor in the
log is left as it is by all of them, however they end (`Keeps`); what a step puts into such a part only where it
returns is not there after a failure (`Spares`).
-/

namespace Transplant.Command

variable {α β γ : Type} {part : Session → γ}

/-- A step that leaves a part of the session as it is, however it ends. -/
def Keeps (part : Session → γ) (step : Step α) : Prop :=
  ∀ s, part (step.exec s).2 = part s

/-- A step that leaves a part of the session as it is where it fails. -/
def Spares (part : Session → γ) (step : Step α) : Prop :=
  ∀ s why, (step.exec s).1 = .error why → part (step.exec s).2 = part s

/-- Whether a part of the session is neither on the disk nor in the log. -/
structure Apart (part : Session → γ) : Prop where
  disk : ∀ s disk, part (s.onDisk disk) = part s
  log : ∀ s log, part { s with log := log } = part s

theorem apart_output : Apart Session.output :=
  ⟨fun _ _ => rfl, fun _ _ => rfl⟩

theorem apart_requests : Apart Session.requests :=
  ⟨fun _ _ => rfl, fun _ _ => rfl⟩

namespace Keeps

theorem pure (a : α) : Keeps part (Pure.pure a : Step α) :=
  fun _ => rfl

theorem get : Keeps part get :=
  fun _ => rfl

theorem settle (x : Except Failure α) : Keeps part (settle x) :=
  fun s => by rw [exec_settle]

theorem part_bind {f : α → Step β} (hf : ∀ a, Keeps part (f a)) (step : Step α) (s : Session) :
    part ((step >>= f).exec s).2 = part (step.exec s).2 := by
  rw [exec_bind]
  cases (step.exec s).1 with
  | ok a => exact hf a (step.exec s).2
  | error why => rfl

theorem bind {step : Step α} {f : α → Step β} (hstep : Keeps part step) (hf : ∀ a, Keeps part (f a)) :
    Keeps part (step >>= f) :=
  fun s => (part_bind hf step s).trans (hstep s)

theorem updateFile (h : Apart part) (path : Tree.Path) (name : String) (f : List UInt8 → List UInt8) :
    Keeps part (updateFile path name f) := by
  intro s
  cases hupdate : s.disk.update path f with
  | ok disk => rw [exec_updateFile_ok hupdate, h.disk]
  | error why => rw [exec_updateFile_error hupdate]

theorem writeFile (h : Apart part) (file : String) (contents : List UInt8) : Keeps part (writeFile file contents) :=
  fun s => by rw [exec_writeFile, updateFile h]

theorem readFile (file : String) : Keeps part (readFile file) :=
  fun s => by rw [exec_readFile]

theorem makeDirectoryOf (h : Apart part) (file : String) : Keeps part (makeDirectoryOf file) := by
  intro s
  rw [Command.makeDirectoryOf, exec_bind_ok (exec_get s), exec_bind, exec_settle]
  cases s.disk.ensureDirectories s.directory (Disk.Location.ofText file).parent with
  | ok disk => exact h.disk s disk
  | error why => rfl

theorem appendLog (h : Apart part) (file text : String) : Keeps part (appendLog file text) :=
  get.bind fun _ => updateFile h _ _ _

theorem logAll (h : Apart part) (records : List Log.Record) : Keeps part (logAll records) := by
  refine get.bind fun s => ?_
  cases s.log.bind (·.fileText records) with
  | none => exact pure _
  | some place => exact appendLog h _ _

theorem startLog (h : Apart part) (settings : Settings.Logging) (verbose : Bool) :
    Keeps part (startLog settings verbose) := by
  rw [Command.startLog, startSinks_eq]
  refine bind ?_ fun _ => bind ?_ fun _ => (settle _).bind fun _ => bind (fun s => h.log s _) fun _ => logAll h _
  · cases (Log.configure settings verbose).asked with
    | none => exact pure _
    | some file => exact makeDirectoryOf h file
  · cases (Log.configure settings verbose).created with
    | none => exact pure _
    | some file => exact appendLog h file ""

theorem loadSettings (config : Option String) : Keeps part (loadSettings config) :=
  fun s => by rw [session_loadSettings]

end Keeps

theorem keeps_perform {β : Type} (a : Tree.Activity β) : Keeps Session.output (perform a) :=
  .bind (fun _ => rfl) fun _ => .bind (.logAll apart_output _) fun _ => .settle _

theorem Spares.bind {step : Step α} {f : α → Step β} (hstep : Keeps part step) (hf : ∀ a, Spares part (f a)) :
    Spares part (step >>= f) := by
  intro s why hfail
  rw [exec_bind] at hfail ⊢
  cases hresult : (step.exec s).1 with
  | error why => exact hstep s
  | ok a =>
    rw [hresult] at hfail
    exact (hf a (step.exec s).2 why hfail).trans (hstep s)

end Transplant.Command
