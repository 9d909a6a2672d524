import Transplant.Command.Run
import Transplant.Proofs.Disk.Growth

/-!
# How the steps of a command execute

`Step.exec` is computed step by step, one equation for each step that the commands are built from. Files change
the disk only.

Main statements: once a log is started its file is there, so that it can be written from then on, and all other
files are as they were (`logging_of_startLog`); an activity ends as its outcome says (`exec_perform`).
-/

namespace Transplant.Command

variable {α β : Type} {s s' : Session}

/-! ## Equations -/

theorem exec_get (s : Session) : (get : Step Session).exec s = (.ok s, s) := rfl

theorem exec_modify (f : Session → Session) (s : Session) :
    (modify f : Step PUnit).exec s = (.ok ⟨⟩, f s) := rfl

theorem exec_bind (step : Step α) (f : α → Step β) (s : Session) :
    (step >>= f).exec s =
      match (step.exec s).1 with
      | .ok a => (f a).exec (step.exec s).2
      | .error why => (.error why, (step.exec s).2) := by
  change (ExceptT.bindCont f (step.exec s).1 : StateM Session (Except Failure β)) (step.exec s).2 = _
  cases (step.exec s).1 <;> rfl

theorem exec_bind_ok {step : Step α} {a : α} (h : step.exec s = (.ok a, s')) (f : α → Step β) :
    (step >>= f).exec s = (f a).exec s' := by
  rw [exec_bind, h]

theorem exec_bind_error {step : Step α} {why : Failure} (h : step.exec s = (.error why, s'))
    (f : α → Step β) : (step >>= f).exec s = (.error why, s') := by
  rw [exec_bind, h]

theorem ok_of_exec_bind {step : Step α} {f : α → Step β} {b : β}
    (h : (step >>= f).exec s = (.ok b, s')) :
    ∃ a between, step.exec s = (.ok a, between) ∧ (f a).exec between = (.ok b, s') := by
  rw [exec_bind] at h
  cases hstep : step.exec s with
  | mk outcome between =>
    rw [hstep] at h
    cases outcome with
    | ok a => exact ⟨a, between, rfl, h⟩
    | error why => cases h

theorem exec_tryCatch (step : Step α) (handler : Failure → Step α) (s : Session) :
    (tryCatch step handler).exec s =
      match (step.exec s).1 with
      | .ok a => (.ok a, (step.exec s).2)
      | .error why => (handler why).exec (step.exec s).2 := by
  unfold Step.exec ExceptT.run StateT.run
  simp only [tryCatch, tryCatchThe, MonadExceptOf.tryCatch, ExceptT.tryCatch, ExceptT.mk, bind,
    StateT.bind]
  cases step s with
  | mk outcome after => cases outcome <;> rfl

theorem exec_settle (x : Except Failure α) (s : Session) : (settle x).exec s = (x, s) := by
  cases x <;> rfl

/-! ## Output -/

theorem exec_display_error (why : Terminal.MarkupFault) (s : Session) :
    (display (.error why)).exec s = (.error (.markup why), s) := rfl

/-! ## Files -/

/-- The session on another disk. -/
def Session.onDisk (s : Session) (disk : Disk) : Session :=
  { s with disk := disk }

theorem exec_updateFile_ok {path : Tree.Path} {f : List UInt8 → List UInt8} {disk : Disk}
    (h : s.disk.update path f = .ok disk) (name : String) :
    (updateFile path name f).exec s = (.ok (), s.onDisk disk) := by
  rw [updateFile, exec_bind_ok (exec_get s), h]
  rfl

theorem exec_updateFile_error {path : Tree.Path} {f : List UInt8 → List UInt8} {why : Disk.Fault}
    (h : s.disk.update path f = .error why) (name : String) :
    (updateFile path name f).exec s = (.error (.disk why name), s) := by
  rw [updateFile, exec_bind_ok (exec_get s), h]
  rfl

/-- The absolute path of a file that a command line or the settings name. -/
def Session.path (s : Session) (file : String) : Tree.Path :=
  (Disk.Location.ofText file).absolute s.directory

theorem exec_writeFile (file : String) (contents : List UInt8) (s : Session) :
    (writeFile file contents).exec s =
      (updateFile (s.path file) (Disk.Location.ofText file).text fun _ => contents).exec s := by
  rw [writeFile, exec_bind_ok (exec_get s), Session.path]

theorem exec_readFile (file : String) (s : Session) :
    (readFile file).exec s =
      ((s.disk.read (s.path file)).mapError fun why => .disk why (Disk.Location.ofText file).text, s) := by
  rw [readFile, exec_bind_ok (exec_get s), exec_settle]
  rfl

/-- **Writing a file returns if the file has the contents then.** -/
theorem exec_writeFile_ok_iff {file : String} {contents : List UInt8} :
    ((writeFile file contents).exec s).1 = .ok () ↔
      ((writeFile file contents).exec s).2.disk.read (s.path file) = .ok contents := by
  rw [exec_writeFile]
  cases hupdate : s.disk.update (s.path file) fun _ => contents with
  | ok disk =>
    rw [exec_updateFile_ok hupdate]
    obtain ⟨-, hread⟩ := Disk.read_update hupdate
    exact ⟨fun _ => hread, fun _ => rfl⟩
  | error why =>
    rw [exec_updateFile_error hupdate]
    refine ⟨nofun, fun hread => ?_⟩
    -- a file with these contents could have been written
    obtain ⟨disk, hdisk⟩ := Disk.update_of_read hread fun _ => contents
    cases hupdate.symm.trans hdisk

/-! ## Log -/

/-- Whether a log file is there. -/
def Session.HasLogFile (s : Session) (file : String) : Prop :=
  ∃ contents, s.disk.read (Tree.Path.resolve s.directory file).collapse = .ok contents

/-- Whether the log can be written, if there is one. -/
def Session.Logging (s : Session) : Prop :=
  ∀ sinks ∈ s.log, ∀ file ∈ sinks.file, s.HasLogFile file.path

theorem exec_appendLog (file text : String) (s : Session) :
    (appendLog file text).exec s =
      (updateFile (Tree.Path.resolve s.directory file).collapse
        (Tree.Path.resolve s.directory file).collapse.text (· ++ Text.encodeUtf8 text)).exec s := by
  rw [appendLog, exec_bind_ok (exec_get s)]

/-- Whether the log goes to a place. -/
def Session.LogsTo (s : Session) (place : Disk.Place) : Prop :=
  ∃ sinks ∈ s.log, ∃ file ∈ sinks.file,
    s.disk.locate (Tree.Path.resolve s.directory file.path).collapse = .ok place

theorem logsTo_of_grows {written : Disk.Place → Prop} {disk : Disk} {place : Disk.Place}
    (hgrows : Disk.Grows written s.disk disk) (h : s.LogsTo place) : (s.onDisk disk).LogsTo place := by
  obtain ⟨sinks, hsinks, file, hfile, hplace⟩ := h
  exact ⟨sinks, hsinks, file, hfile, hgrows.locate _ _ hplace⟩

theorem hasLogFile_of_appendLog {file text : String} (h : (appendLog file text).exec s = (.ok (), s')) :
    ∃ disk, s' = s.onDisk disk ∧ s'.HasLogFile file ∧
      Disk.Grows (fun place => s.disk.locate (Tree.Path.resolve s.directory file).collapse = .ok place)
        s.disk disk := by
  rw [exec_appendLog] at h
  cases hupdate : s.disk.update (Tree.Path.resolve s.directory file).collapse (· ++ Text.encodeUtf8 text) with
  | error why =>
    rw [exec_updateFile_error hupdate] at h
    cases h
  | ok disk =>
    rw [exec_updateFile_ok hupdate] at h
    obtain ⟨old, hread⟩ := Disk.read_update hupdate
    cases h
    exact ⟨disk, rfl, ⟨_, hread⟩, Disk.grows_update hupdate⟩

theorem exec_appendLog_of_hasLogFile {file : String} (h : s.HasLogFile file) (text : String) :
    ∃ disk, (appendLog file text).exec s = (.ok (), s.onDisk disk) := by
  obtain ⟨contents, hread⟩ := h
  obtain ⟨disk, hupdate⟩ := Disk.update_of_read hread (· ++ Text.encodeUtf8 text)
  exact ⟨disk, by rw [exec_appendLog, exec_updateFile_ok hupdate]⟩

/-- Logging leaves the log as it is, so that it can be written again, and writes to its file only. -/
theorem exec_logAll (h : s.Logging) (records : List Log.Record) :
    ∃ disk, (logAll records).exec s = (.ok (), s.onDisk disk) ∧ (s.onDisk disk).Logging ∧
      Disk.Grows s.LogsTo s.disk disk := by
  rw [logAll, exec_bind_ok (exec_get s)]
  cases htext : s.log.bind (·.fileText records) with
  | none => exact ⟨s.disk, rfl, h, .refl _ _⟩
  | some place =>
    obtain ⟨sinks, hsinks, hplace⟩ := Option.bind_eq_some_iff.mp htext
    obtain ⟨sink, hsink, rfl⟩ := Option.map_eq_some_iff.mp hplace
    obtain ⟨disk, happend⟩ := exec_appendLog_of_hasLogFile (h sinks hsinks sink hsink) _
    obtain ⟨_, hafter, hthere, hgrows⟩ := hasLogFile_of_appendLog happend
    cases hafter
    refine ⟨disk, happend, ?_, hgrows.mono fun place hplace => ⟨sinks, hsinks, sink, hsink, hplace⟩⟩
    intro others hothers other hother
    obtain rfl : others = sinks := Option.some.inj (hothers.symm.trans hsinks)
    obtain rfl : other = sink := Option.some.inj (hother.symm.trans hsink)
    exact hthere

/-- The sinks that were set up write to the file that was created. -/
theorem created_setUp {level : String} {file format : Option String} {sinks : Log.Sinks}
    (h : (Log.setUp level file format).sinks = .ok sinks) :
    (Log.setUp level file format).created = sinks.file.map (·.path) := by
  revert h
  unfold Log.setUp
  dsimp only
  split
  · exact nofun
  split
  · exact nofun
  · rintro ⟨⟩
    rfl
  split
  · exact nofun
  · exact nofun
  · rintro ⟨⟩
    rfl

theorem exec_makeDirectoryOf_ok_iff {file : String} :
    (makeDirectoryOf file).exec s = (.ok (), s') ↔
      ∃ disk, s.disk.ensureDirectories s.directory (Disk.Location.ofText file).parent = .ok disk ∧
        s' = s.onDisk disk := by
  rw [makeDirectoryOf, exec_bind_ok (exec_get s)]
  constructor
  · intro h
    obtain ⟨disk, made, hmade, hset⟩ := ok_of_exec_bind h
    rw [exec_settle] at hmade
    obtain ⟨hensured, rfl⟩ := Prod.mk.inj hmade
    cases hset
    exact ⟨disk, hensured, rfl⟩
  · rintro ⟨disk, hensured, rfl⟩
    rw [hensured]
    rfl

theorem startSinks_eq (setup : Log.Setup) :
    startSinks setup =
      (setup.asked.elim (pure ()) makeDirectoryOf >>= fun _ =>
        setup.created.elim (pure ()) (appendLog · "") >>= fun _ =>
          settle setup.sinks >>= fun sinks =>
            (modify fun s => { s with log := some sinks }) >>= fun _ => logAll [sinks.firstRecord]) := by
  rw [startSinks]
  cases setup.asked <;> cases setup.created <;> rfl

/-- The directory of the log is made and its file created before the log starts. -/
theorem exec_startSinks_files {setup : Log.Setup} {s₁ s₂ : Session}
    (hasked : (setup.asked.elim (pure ()) makeDirectoryOf : Step Unit).exec s = (.ok (), s₁))
    (hmade : (setup.created.elim (pure ()) (appendLog · "") : Step Unit).exec s₁ = (.ok (), s₂)) :
    ∃ disk, s₂ = s.onDisk disk ∧ (∀ file ∈ setup.created, s₂.HasLogFile file) ∧
      Disk.Grows (fun place => ∃ file ∈ setup.created,
        disk.locate (Tree.Path.resolve s.directory file).collapse = .ok place) s.disk disk := by
  have hdisk : ∃ disk, s₁ = s.onDisk disk ∧ Disk.Grows (fun _ => False) s.disk disk := by
    cases hfile : setup.asked with
    | none =>
      rw [hfile] at hasked
      cases hasked
      exact ⟨s.disk, rfl, .refl _ _⟩
    | some file =>
      rw [hfile] at hasked
      obtain ⟨disk, hensured, rfl⟩ := exec_makeDirectoryOf_ok_iff.1 hasked
      exact ⟨disk, rfl, Disk.grows_ensureDirectories hensured⟩
  obtain ⟨disk, rfl, hdirectory⟩ := hdisk
  cases hfile : setup.created with
  | none =>
    rw [hfile] at hmade
    cases hmade
    exact ⟨disk, rfl, nofun, hdirectory.mono nofun⟩
  | some file =>
    rw [hfile] at hmade
    obtain ⟨disk', hafter, hthere, hcreated⟩ := hasLogFile_of_appendLog hmade
    refine ⟨disk', hafter, ?_, ?_⟩
    · rintro _ ⟨⟩
      exact hthere
    · refine (hdirectory.mono nofun).trans (hcreated.mono fun place hplace => ?_)
      exact ⟨file, rfl, hcreated.locate _ _ hplace⟩

/-- **A log that was started can be written**; besides, only the disk has changed, and of the files that were there
only the one that is logged to. -/
theorem logging_of_startLog {settings : Settings.Logging} {verbose : Bool}
    (h : (startLog settings verbose).exec s = (.ok (), s')) :
    ∃ disk sinks, s' = { s.onDisk disk with log := some sinks } ∧ s'.Logging ∧
      Disk.Grows s'.LogsTo s.disk disk := by
  rw [startLog, startSinks_eq] at h
  obtain ⟨⟨⟩, s₁, hasked, h⟩ := ok_of_exec_bind h
  obtain ⟨⟨⟩, s₂, hmade, h⟩ := ok_of_exec_bind h
  obtain ⟨sinks, s₃, hsettle, h⟩ := ok_of_exec_bind h
  rw [exec_settle] at hsettle
  obtain ⟨hsinks, rfl⟩ := Prod.mk.inj hsettle
  rw [exec_bind_ok (exec_modify _ s₂)] at h
  obtain ⟨disk, rfl, hthere, hfiles⟩ := exec_startSinks_files hasked hmade
  rw [Log.configure, created_setUp hsinks] at hthere hfiles
  have hlogging : Session.Logging { s.onDisk disk with log := some sinks } := by
    rintro _ ⟨⟩ file hfile
    exact hthere file.path (Option.mem_map_of_mem _ hfile)
  obtain ⟨disk', hlog, hafter, hgrows⟩ := exec_logAll hlogging [sinks.firstRecord]
  obtain ⟨-, rfl⟩ := Prod.mk.inj (hlog.symm.trans h)
  refine ⟨disk', sinks, rfl, hafter, (hfiles.mono fun place hplace => ?_).trans (hgrows.mono fun place =>
    logsTo_of_grows hgrows)⟩
  obtain ⟨_, hpath, hplace⟩ := hplace
  obtain ⟨file, hfile, rfl⟩ := Option.map_eq_some_iff.1 hpath
  exact ⟨sinks, rfl, file, hfile, hgrows.locate _ _ hplace⟩

/-- **An activity ends as its outcome says** once the log can be written. -/
theorem exec_perform (h : s.Logging) (a : Tree.Activity α) :
    ∃ disk, (perform a).exec s =
      (a.outcome, { s.onDisk disk with requests := s.requests ++ a.requests }) := by
  rw [perform, exec_bind_ok (exec_modify _ s)]
  have hlogging : Session.Logging { s with requests := s.requests ++ a.requests } := h
  obtain ⟨disk, hlog, -, -⟩ := exec_logAll hlogging a.records
  exact ⟨disk, by rw [exec_bind_ok hlog, exec_settle]; rfl⟩

/-! ## Commands -/

theorem session_loadFile (file : String) (s : Session) : ((loadFile file).exec s).2 = s := by
  rw [loadFile, exec_bind_ok (exec_get s)]
  dsimp only
  split
  · rfl
  · rw [exec_settle]
  · rw [exec_bind, exec_readFile]
    cases s.disk.read (s.path file) with
    | error why => rfl
    | ok contents => exact congrArg Prod.snd (exec_settle _ s)

theorem exec_loadFile_of_read {file : String} {contents : List UInt8}
    (h : s.disk.read (s.path file) = .ok contents) :
    (loadFile file).exec s = (Settings.ofBytes file contents, s) := by
  obtain ⟨entry, hentry⟩ : ∃ entry, s.disk.lookUp (s.path file) = .ok entry := by
    cases hlook : s.disk.lookUp (s.path file) with
    | error why =>
      rw [Disk.read, hlook] at h
      cases h
    | ok entry => exact ⟨entry, rfl⟩
  rw [Session.path] at hentry
  rw [loadFile, exec_bind_ok (exec_get s)]
  dsimp only
  rw [hentry]
  dsimp only
  rw [exec_bind, exec_readFile, h]
  exact exec_settle _ s

/-- Once settings were saved, their text is in the file. -/
theorem read_of_saveSettings {file : String} {settings : Settings}
    (h : (saveSettings file settings).exec s = (.ok (), s')) :
    ∃ disk, s' = s.onDisk disk ∧ disk.read (s.path file) = .ok (Text.encodeUtf8 settings.toFile) := by
  rw [saveSettings] at h
  obtain ⟨⟨⟩, between, hmade, hwrite⟩ := ok_of_exec_bind h
  obtain ⟨disk, -, rfl⟩ := exec_makeDirectoryOf_ok_iff.1 hmade
  have hnumbers : settings.checkNumbers = .ok () := by
    cases hnumbers : settings.checkNumbers with
    | ok => rfl
    | error why =>
      rw [hnumbers] at hwrite
      obtain ⟨_, _, -, hthrow⟩ := ok_of_exec_bind hwrite
      cases hthrow
  rw [hnumbers] at hwrite
  have hread := exec_writeFile_ok_iff.1 (congrArg Prod.fst hwrite)
  rw [exec_writeFile] at hwrite hread
  cases hupdate : (s.onDisk disk).disk.update ((s.onDisk disk).path file)
      fun _ => Text.encodeUtf8 settings.toFile with
  | error why =>
    rw [exec_updateFile_error hupdate] at hwrite
    cases hwrite
  | ok disk' =>
    rw [exec_updateFile_ok hupdate] at hwrite hread
    cases hwrite
    exact ⟨disk', rfl, hread⟩

/-- Settings with numbers that can be written can be saved to every file that can be written. -/
theorem exec_saveSettings {file : String} {settings : Settings} {disk : Disk}
    (hnumbers : settings.checkNumbers = .ok ()) (hcwd : s.disk.isDirectory s.directory = true)
    (h : s.disk.update (s.path file) (fun _ => Text.encodeUtf8 settings.toFile) = .ok disk) :
    (saveSettings file settings).exec s = (.ok (), s.onDisk disk) := by
  have hmade : (makeDirectoryOf file).exec s = (.ok (), s) :=
    exec_makeDirectoryOf_ok_iff.2 ⟨s.disk, Disk.ensureDirectories_of_update hcwd h, rfl⟩
  rw [saveSettings, exec_bind_ok hmade, hnumbers, exec_writeFile]
  exact exec_updateFile_ok h _

/-- The file in which settings are found, if there is one. -/
def Session.settingsFile? (s : Session) (config : Option String) : Option String :=
  Log.given? config <|> settingsFiles.find? fun file => (s.disk.lookUp (s.path file)).toOption.isSome

theorem exec_loadSettings_of_some {config : Option String} {file : String} (h : s.settingsFile? config = some file) :
    (loadSettings config).exec s = (loadFile file).exec s := by
  rw [Session.settingsFile?] at h
  unfold Session.path at h
  rw [loadSettings, exec_bind_ok (exec_get s)]
  dsimp only
  rw [h]

theorem exec_loadSettings_of_none {config : Option String} (h : s.settingsFile? config = none) :
    (loadSettings config).exec s = (Settings.ofEnvironment s.environment, s) := by
  rw [Session.settingsFile?] at h
  unfold Session.path at h
  rw [loadSettings, exec_bind_ok (exec_get s)]
  dsimp only
  rw [h]
  exact exec_settle _ s

/-- Loading settings changes nothing. -/
theorem session_loadSettings (config : Option String) (s : Session) :
    ((loadSettings config).exec s).2 = s := by
  cases hfile : s.settingsFile? config with
  | none => rw [exec_loadSettings_of_none hfile]
  | some file =>
    rw [exec_loadSettings_of_some hfile]
    exact session_loadFile file s

theorem attempt_eq [Terminal.Lexicon] (body : Step Unit) (excuse : Failure → String) :
    attempt body excuse =
      tryCatch (body >>= fun _ => pure 0) fun why => print (lament (excuse why)) >>= fun _ => pure 1 := by
  funext s
  unfold attempt
  simp only [tryCatch, tryCatchThe, MonadExceptOf.tryCatch, ExceptT.tryCatch, ExceptT.mk, bind, StateT.bind,
    ExceptT.bind, ExceptT.bindCont, pure, ExceptT.pure]
  obtain ⟨outcome, after⟩ := body s
  cases outcome with
  | ok result => rfl
  | error why =>
    dsimp only [StateT.pure, StateT.bind, pure, bind, ExceptT.bindCont]
    obtain ⟨told, after'⟩ := print (lament (excuse why)) after
    cases told <;> rfl

end Transplant.Command
