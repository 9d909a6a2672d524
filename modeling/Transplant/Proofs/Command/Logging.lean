import Transplant.Proofs.Command.Exec

/-!
# Setting up the log

When the log that settings ask for can be set up: its format has to make sense, with colours and, if there is a file,
without them, and the file has to be one that can be written.

Main statement: `exec_startLog_ok_iff`.
-/

namespace Transplant.Command

variable {s s' : Session} {settings : Settings.Logging} {verbose : Bool}

/-- The format of the records. -/
def formatOf (settings : Settings.Logging) : String :=
  (Log.given? (some settings.format)).getD Log.consoleFormat

/-- Whether the format of the log and the path of its file make sense. -/
structure MakesSense (settings : Settings.Logging) : Prop where
  format : ∃ console, Log.Layout.parse? (formatOf settings) = some console
  file : ∀ asked, Log.given? settings.file = some asked →
    (∃ path, Log.placeOf asked = .ok path) ∧ ∃ plain, Log.Layout.parse? (Log.plainFormat (formatOf settings)) = some plain

/-- Whether the log that settings ask for can be set up. -/
structure Session.CanLog (s : Session) (settings : Settings.Logging) : Prop where
  sense : MakesSense settings
  writable : ∀ asked path, Log.given? settings.file = some asked → Log.placeOf asked = .ok path →
    ∃ disk, s.disk.ensureDirectories s.directory (Disk.Location.ofText asked).parent = .ok disk ∧
      disk.CanWrite (Tree.Path.resolve s.directory path).collapse

/-! ## What is set up -/

theorem ofName?_name (l : Log.Level) : Log.Level.ofName? l.name = some l := by
  cases l <;> decide

theorem level_configure (settings : Settings.Logging) (verbose : Bool) :
    ∃ level, Log.Level.ofName? (if verbose then "DEBUG" else settings.level.name) = some level := by
  cases verbose with
  | false => exact ⟨_, ofName?_name settings.level⟩
  | true => exact ⟨_, ofName?_name .debug⟩

theorem makesSense_of_configure {sinks : Log.Sinks} (h : (Log.configure settings verbose).sinks = .ok sinks) :
    MakesSense settings := by
  obtain ⟨level, hlevel⟩ := level_configure settings verbose
  have hformat : (Log.given? (some settings.format)).getD Log.consoleFormat = formatOf settings := rfl
  unfold Log.configure Log.setUp at h
  rw [hlevel, hformat] at h
  dsimp only at h
  split at h
  · cases h
  · rename_i console hconsole hnone
    exact ⟨⟨console, hconsole⟩, fun asked hasked => by cases hnone.symm.trans hasked⟩
  · rename_i console asked hconsole hasked
    split at h
    · cases h
    · cases h
    · rename_i path plain hpath hplain
      refine ⟨⟨console, hconsole⟩, fun other hother => ?_⟩
      obtain rfl := Option.some.inj (hasked.symm.trans hother)
      exact ⟨⟨path, hpath⟩, plain, hplain⟩

section

variable {console plain : Log.Layout} {asked path : String}

theorem configure_without_file (hconsole : Log.Layout.parse? (formatOf settings) = some console)
    (hnone : Log.given? settings.file = none) (verbose : Bool) :
    ∃ level, Log.configure settings verbose = { sinks := .ok ⟨level, console, none⟩ } := by
  obtain ⟨level, hlevel⟩ := level_configure settings verbose
  have hformat : (Log.given? (some settings.format)).getD Log.consoleFormat = formatOf settings := rfl
  refine ⟨level, ?_⟩
  rw [Log.configure, Log.setUp, hlevel, hformat]
  dsimp only
  rw [hconsole, hnone]

theorem configure_with_file (hconsole : Log.Layout.parse? (formatOf settings) = some console)
    (hasked : Log.given? settings.file = some asked) (hpath : Log.placeOf asked = .ok path)
    (hplain : Log.Layout.parse? (Log.plainFormat (formatOf settings)) = some plain) (verbose : Bool) :
    ∃ level, Log.configure settings verbose =
      { asked := asked, created := path, sinks := .ok ⟨level, console, some ⟨asked, path, plain⟩⟩ } := by
  obtain ⟨level, hlevel⟩ := level_configure settings verbose
  have hformat : (Log.given? (some settings.format)).getD Log.consoleFormat = formatOf settings := rfl
  refine ⟨level, ?_⟩
  rw [Log.configure, Log.setUp, hlevel, hformat]
  dsimp only
  rw [hconsole, hasked]
  dsimp only
  rw [hpath, hplain]

end

/-! ## Starting -/

theorem exec_appendLog_ok_iff {file text : String} :
    (∃ s', (appendLog file text).exec s = (.ok (), s')) ↔
      s.disk.CanWrite (Tree.Path.resolve s.directory file).collapse := by
  rw [exec_appendLog, Disk.canWrite_iff (· ++ Text.encodeUtf8 text)]
  cases hupdate : s.disk.update (Tree.Path.resolve s.directory file).collapse (· ++ Text.encodeUtf8 text) with
  | ok disk =>
    rw [exec_updateFile_ok hupdate]
    exact iff_of_true ⟨_, rfl⟩ ⟨disk, rfl⟩
  | error why =>
    rw [exec_updateFile_error hupdate]
    exact iff_of_false nofun nofun

/-- Sinks that write to the file that was created, if they write to one, take their first record. -/
theorem exec_first_record {sinks : Log.Sinks} (h : ∀ file ∈ sinks.file, s.HasLogFile file.path) :
    ∃ s', (settle (.ok sinks) >>= fun sinks =>
      (modify fun s => { s with log := some sinks } : Step PUnit) >>= fun _ =>
        logAll [sinks.firstRecord]).exec s = (.ok (), s') := by
  have hlogging : Session.Logging { s with log := some sinks } := by
    rintro _ ⟨⟩
    exact h
  obtain ⟨disk, hlog, -⟩ := exec_logAll hlogging [sinks.firstRecord]
  exact ⟨_, (exec_bind_ok (exec_settle _ s) _).trans ((exec_bind_ok (exec_modify _ s) _).trans hlog)⟩

/-- **A log can be started if it makes sense and its file can be written.** -/
theorem exec_startLog_ok_iff :
    (∃ s', (startLog settings verbose).exec s = (.ok (), s')) ↔ s.CanLog settings := by
  rw [startLog, startSinks_eq]
  constructor
  · rintro ⟨s', h⟩
    obtain ⟨⟨⟩, s₁, hmade, h⟩ := ok_of_exec_bind h
    obtain ⟨⟨⟩, s₂, hcreated, h⟩ := ok_of_exec_bind h
    obtain ⟨sinks, s₃, hsettle, -⟩ := ok_of_exec_bind h
    rw [exec_settle] at hsettle
    have hsense := makesSense_of_configure (Prod.mk.inj hsettle).1
    refine ⟨hsense, fun asked path hasked hpath => ?_⟩
    obtain ⟨⟨console, hconsole⟩, hfile⟩ := hsense
    obtain ⟨-, plain, hplain⟩ := hfile asked hasked
    obtain ⟨level, hconfigure⟩ := configure_with_file hconsole hasked hpath hplain verbose
    rw [hconfigure] at hmade hcreated
    obtain ⟨disk, hensured, rfl⟩ := exec_makeDirectoryOf_ok_iff.1 hmade
    exact ⟨disk, hensured, exec_appendLog_ok_iff.1 ⟨s₂, hcreated⟩⟩
  · rintro ⟨⟨⟨console, hconsole⟩, hfile⟩, hwritable⟩
    cases hasked : Log.given? settings.file with
    | none =>
      obtain ⟨level, hconfigure⟩ := configure_without_file hconsole hasked verbose
      rw [hconfigure]
      have hfiles : ∀ file ∈ (⟨level, console, none⟩ : Log.Sinks).file, s.HasLogFile file.path := by simp
      obtain ⟨s', hfirst⟩ := exec_first_record hfiles
      exact ⟨s', (exec_bind_ok rfl _).trans ((exec_bind_ok rfl _).trans hfirst)⟩
    | some asked =>
      obtain ⟨⟨path, hpath⟩, plain, hplain⟩ := hfile asked hasked
      obtain ⟨level, hconfigure⟩ := configure_with_file hconsole hasked hpath hplain verbose
      obtain ⟨disk, hensured, hwrite⟩ := hwritable asked path hasked hpath
      have hmade : (makeDirectoryOf asked).exec s = (.ok (), s.onDisk disk) :=
        exec_makeDirectoryOf_ok_iff.2 ⟨disk, hensured, rfl⟩
      obtain ⟨s₂, hcreated⟩ : ∃ s₂, (appendLog path "").exec (s.onDisk disk) = (.ok (), s₂) :=
        exec_appendLog_ok_iff.2 hwrite
      obtain ⟨_, -, hthere, -⟩ := hasLogFile_of_appendLog hcreated
      have hfiles : ∀ file ∈ (⟨level, console, some ⟨asked, path, plain⟩⟩ : Log.Sinks).file,
          s₂.HasLogFile file.path := by simpa using hthere
      obtain ⟨s', hfirst⟩ := exec_first_record hfiles
      rw [hconfigure]
      exact ⟨s', (exec_bind_ok hmade _).trans ((exec_bind_ok hcreated _).trans hfirst)⟩

end Transplant.Command
