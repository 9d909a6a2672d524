import Transplant.Proofs.Workflow.Source

/-!
# The selection of a mode

An engine gets past the selection of its mode in every run or in none, and the record of it tells the mode
(`Engine.starts_iff_select`). A squash makes one call, with or without an engine (`Squashing.since`).
-/

namespace Transplant.Workflow

variable {settings : Settings} {m : Mode}

/-! ## Selecting -/

/-- Whether a run of an engine gets past the selection of its mode, which is then the first thing on record. -/
def Engine.Starts (settings : Settings) (name : Option String) (m : Mode) (h : Helper) (run : Run) : Prop :=
  ∃ events, ((Engine.run settings h name).exec run).2.log = run.log ++ opening m :: events

theorem opening_injective {m' : Mode} (h : opening m = opening m') : m = m' := by
  have hname : m.name = m'.name := by simpa [opening, engineRecord] using h
  exact Option.some.inj ((ofName?_eq_some_iff.2 hname).symm.trans (ofName?_eq_some_iff.2 rfl))

theorem Engine.starts_of_select {name : Option String} (hselect : Engine.select settings name = .ok m)
    (h : Helper) (run : Run) : Engine.Starts settings name m h run := by
  let ended := (runMode m (some settings) h).exec (run.record [opening m])
  obtain ⟨events, hlog, -⟩ := runMode_adds m (some settings) h (run.record [opening m])
  refine ⟨events ++ closing m ended.1, ?_⟩
  rw [exec_engine hselect, record_log, hlog, record_log]
  simp [ended]

theorem Engine.starts_iff_select {name : Option String} {h : Helper} {run : Run} :
    Engine.Starts settings name m h run ↔ Engine.select settings name = .ok m := by
  refine ⟨fun hstarts => ?_, fun hselect => Engine.starts_of_select hselect h run⟩
  obtain ⟨events, hlog⟩ := hstarts
  cases hselect : Engine.select settings name with
  | error why =>
    rw [Engine.run, exec_bind_error (exec_settle_error hselect run)] at hlog
    simp at hlog
  | ok m' =>
    obtain ⟨events', hlog'⟩ := Engine.starts_of_select hselect h run
    rw [hlog] at hlog'
    rw [opening_injective (List.cons.inj (List.append_cancel_left hlog')).1]

theorem Engine.select_some_iff {s : String} (hs : s ≠ "") :
    Engine.select settings (some s) = .ok m ↔ Mode.ofAnyCase? s = some m := by
  have hasked : (some s).filter (fun s => !s.isEmpty) = some s := by simp [hs]
  rw [Engine.select, hasked]
  dsimp only
  cases Mode.ofAnyCase? s <;> simp

/-! ## Squashing -/

/-- The only call of a squash has the message and the author in force, also when an engine frames it. -/
theorem Squashing.since {source : Option Settings} {act : Helper → Act Result} (hact : Squashing source act)
    {h : Helper} {metadata : Metadata} (hmetadata : squashMetadata source h = .ok metadata) (run : Run) :
    ∃ requests, Since run ((act h).exec run).2 requests [squashCall h metadata] := by
  obtain ⟨front, back, hframed⟩ := hact.framed
  let begun := run.record front
  let ended := (squash source h).exec begun
  have hbegun : Since run begun 0 [] :=
    .quiet run fun e he => Event.isQuiet_of_isAside (hframed.front_aside e he)
  obtain ⟨requests, hsquash⟩ : ∃ requests, Since begun ended.2 requests [squashCall h metadata] :=
    since_squash hmetadata begun
  have hended : Since ended.2 (ended.2.record (back ended.1)) 0 [] :=
    .quiet ended.2 fun e he => Event.isQuiet_of_isAside (hframed.back_aside _ e he)
  rw [hframed.exec_eq]
  exact ⟨_, (hbegun.trans hsquash).trans hended⟩

end Transplant.Workflow
