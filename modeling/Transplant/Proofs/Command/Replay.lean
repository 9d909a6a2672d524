import Transplant.Proofs.Command.Keeps
import Transplant.Proofs.Command.Written
import Transplant.Proofs.Command.Logging
import Transplant.Proofs.Command.Report
import Transplant.Proofs.Tree.Arguments
import Transplant.Proofs.Yaml.Numbered
import Transplant.Terminal.SmallLexicon

/-!
# What a patch asks of the tool

A `patch` command puts its process together from the settings and from its own switches, each by a rule of its own.
Only one step of the command can start a process (`Quiet` is a step that cannot), and a log that is started leaves
the file of the difference as it is, unless that file is the log.

Main statement: `run_patch_composes`.
-/

namespace Transplant.Command

variable {α β : Type} {s s' : Session}

/-! ## Steps that start no process -/

/-- A step that starts no process, however it ends. -/
def Quiet (step : Step α) : Prop :=
  ∀ s, (step.exec s).2.requests = s.requests

namespace Quiet

theorem startLog (settings : Settings.Logging) (verbose : Bool) : Quiet (startLog settings verbose) :=
  Keeps.startLog apart_requests settings verbose

theorem print [Terminal.Lexicon] (markup : String) : Quiet (print markup) := by
  intro s
  obtain ⟨output, hprint⟩ := session_print markup s
  rw [hprint]

theorem requests_bind {f : α → Step β} (hf : ∀ a, Quiet (f a)) (step : Step α) (s : Session) :
    ((step >>= f).exec s).2.requests = (step.exec s).2.requests :=
  Keeps.part_bind hf step s

end Quiet

theorem requests_perform (a : Tree.Activity α) (s : Session) :
    ((perform a).exec s).2.requests = s.requests ++ a.requests := by
  rw [perform, exec_bind_ok (exec_modify _ s)]
  exact (Keeps.logAll apart_requests a.records).bind (fun _ => .settle a.outcome) _

/-! ## Sources of settings -/

/-- Whether there is something at the path of a file. -/
def Session.IsThere (s : Session) (file : String) : Prop :=
  ∃ entry, s.disk.lookUp (s.path file) = .ok entry

/-- Settings that are those in a file whatever else there is, and a failure where the file is no good. -/
structure LoadedFrom (s : Session) (file : String) (loaded : Except Failure Settings) : Prop where
  ofBytes : ∀ contents, s.disk.read (s.path file) = .ok contents → loaded = Settings.ofBytes file contents
  unread : ∀ why, s.disk.read (s.path file) = .error why → ∃ why', loaded = .error why'

/-- Settings from the file that is named, else from the first file that is there, else from the environment. -/
structure LoadedInOrder (s : Session) (config : Option String) (loaded : Except Failure Settings) : Prop where
  named : ∀ file, Log.given? config = some file → LoadedFrom s file loaded
  first : Log.given? config = none → ∀ before file after,
    ["tree-migrate.yaml", "tree-migrate.yml", ".tree-migrate.yaml"] = before ++ file :: after →
    (∀ other ∈ before, ¬ s.IsThere other) → s.IsThere file → LoadedFrom s file loaded
  environment : Log.given? config = none →
    (∀ file ∈ ["tree-migrate.yaml", "tree-migrate.yml", ".tree-migrate.yaml"], ¬ s.IsThere file) →
    loaded = Settings.ofEnvironment s.environment

theorem loadedFrom_loadFile (s : Session) (file : String) : LoadedFrom s file ((loadFile file).exec s).1 := by
  refine ⟨fun contents hread => by rw [exec_loadFile_of_read hread], fun why hread => ?_⟩
  rw [loadFile, exec_bind_ok (exec_get s)]
  dsimp only
  split
  · exact ⟨_, rfl⟩
  · exact ⟨_, by rw [exec_settle]; rfl⟩
  · rw [exec_bind, exec_readFile, hread]
    exact ⟨_, rfl⟩

theorem isSome_lookUp_iff {file : String} :
    (s.disk.lookUp (s.path file)).toOption.isSome = true ↔ s.IsThere file := by
  rw [Session.IsThere]
  cases s.disk.lookUp (s.path file) <;> simp [Except.toOption]

theorem loadedInOrder_loadSettings (s : Session) (config : Option String) :
    LoadedInOrder s config ((loadSettings config).exec s).1 := by
  refine ⟨fun file hfile => ?_, fun hnone before file after hfiles hbefore hfile => ?_, fun hnone hmissing => ?_⟩
  · have hchosen : s.settingsFile? config = some file := by
      rw [Session.settingsFile?, hfile]
      rfl
    rw [exec_loadSettings_of_some hchosen]
    exact loadedFrom_loadFile s file
  · have hchosen : s.settingsFile? config = some file := by
      rw [Session.settingsFile?, hnone]
      refine List.find?_eq_some_iff_append.2 ⟨isSome_lookUp_iff.2 hfile, before, after, hfiles, fun other hother => ?_⟩
      rw [Bool.not_eq_true', Bool.eq_false_iff, ne_eq, isSome_lookUp_iff]
      exact hbefore other hother
    rw [exec_loadSettings_of_some hchosen]
    exact loadedFrom_loadFile s file
  · have hchosen : s.settingsFile? config = none := by
      rw [Session.settingsFile?, hnone]
      refine List.find?_eq_none.2 fun file hfile => ?_
      rw [isSome_lookUp_iff]
      exact hmissing file hfile
    rw [exec_loadSettings_of_none hchosen]

/-! ## The process of a patch -/

variable {config : Option String} {verbose : Bool} {settings : Settings} {target diffFile : String}
  {exclude : List String} {strip : Option Int} {reverse : Bool}

section

variable [Terminal.Lexicon]

theorem requests_attempt (body : Step Unit) (excuse : Failure → String) (s : Session) :
    ((attempt body excuse).exec s).2.requests = (body.exec s).2.requests := by
  obtain ⟨output, hattempt⟩ := session_attempt body excuse s
  rw [hattempt]

/-- A command that cannot be started asks for nothing. -/
theorem requests_patch_of_not_started {why : Failure}
    (h : ((loadSettings config).exec s).1 = .error why ∨
      ∃ settings, ((loadSettings config).exec s).1 = .ok settings ∧
        ((startLog settings.logging verbose).exec s).1 = .error why) :
    ((patch config verbose target diffFile exclude strip reverse).exec s).2.requests = s.requests := by
  rw [patch_eq, requests_attempt]
  have hsame := session_loadSettings config s
  rcases h with hload | ⟨settings, hload, hstart⟩
  · rw [exec_bind_error (Prod.ext hload hsame)]
  · rw [exec_bind_ok (Prod.ext hload hsame), exec_bind_error (Prod.ext hstart rfl)]
    exact Quiet.startLog settings.logging verbose s

/-- **A command that was started asks for what the replay asks for**, with the bytes that it reads from its file. -/
theorem requests_patch_of_started {contents : Tree.Bytes} (h : Started s config verbose settings s')
    (hread : s'.disk.read (s'.path diffFile) = .ok contents) :
    ((patch config verbose target diffFile exclude strip reverse).exec s).2.requests =
      s.requests ++ (Tree.patch settings.diff s.directory s.tool target contents
        (patchOptions settings.diff verbose exclude strip reverse)).requests := by
  have hfile : (readFile diffFile).exec s' = (.ok contents, s') := by
    rw [exec_readFile, hread]
    rfl
  obtain ⟨disk, sinks, rfl, -, -⟩ := logging_of_startLog h.started
  rw [patch_eq, requests_attempt, exec_bind_ok (Prod.ext h.loaded (session_loadSettings config s)),
    exec_bind_ok h.started, replayAndTell, exec_bind_ok hfile, exec_bind_ok (exec_get _),
    Quiet.requests_bind (fun _ => .print _), requests_perform]
  rfl

/-- **The process of a patch is put together from the settings and the command line.** The settings come from
the first source that there is, and from no other one. Where they cannot be loaded, or the log that they ask for
cannot be set up, there is no process. Otherwise there is one, unless the number of components is negative or has
more than 4300 digits, or the file of the difference is empty: the number is that of the command line if it gives
one, the tool tells more if either of the two asks for it, and the patterns of both follow one another. The tool
gets the bytes of the file, which are those from before the log was started except where the log goes to this file. -/
theorem run_patch_composes (session : Session) (words : List String)
    (hline : Invocation.read session.disk session.directory words =
      .ok ⟨config, verbose, .patch target diffFile exclude strip reverse⟩) :
    let loaded := ((loadSettings config).exec session).1
    let requests := (run session words).session.requests
    LoadedInOrder session config loaded ∧
    (∀ why, loaded = .error why → requests = session.requests) ∧
    ∀ settings, loaded = .ok settings →
      (¬ session.CanLog settings.logging → requests = session.requests) ∧
      (session.CanLog settings.logging →
        ∃ ready original contents,
          (startLog settings.logging verbose).exec session = (.ok (), ready) ∧
          session.disk.examine session.directory diffFile = .ok (.file original) ∧
          ready.disk.read (session.path diffFile) = .ok contents ∧
          ((∀ place, ready.disk.locate (session.path diffFile) = .ok place → ¬ ready.LogsTo place) →
            contents = original) ∧
          let components : Int := strip.getD settings.diff.stripSlashes
          let digits := Text.digits components.natAbs
          (components < 0 ∨ contents = [] ∨ 4300 < digits.length → requests = session.requests) ∧
          (0 ≤ components ∧ contents ≠ [] ∧ digits.length ≤ 4300 → ∃ request,
            requests = session.requests ++ [request] ∧
            request.command =
              [settings.diff.gitBinary, "apply", "-p" ++ Text.signed components] ++
                (if verbose || settings.diff.verbose then ["-v"] else []) ++
                (settings.diff.excludedPaths ++ exclude).map ("--exclude=" ++ ·) ++
                (if reverse then ["-R"] else []) ++ ["-"] ∧
            request.input = some contents)) := by
  intro loaded requests
  obtain ⟨-, hsession⟩ := run_of_invocation hline
  have hrequests : requests = ((patch config verbose target diffFile exclude strip reverse).exec session).2.requests :=
    congrArg Session.requests hsession
  refine ⟨loadedInOrder_loadSettings session config, fun why hload => ?_, fun settings hload =>
    ⟨fun hlog => ?_, fun hlog => ?_⟩⟩
  · rw [hrequests, requests_patch_of_not_started (.inl hload)]
  · cases hstart : ((startLog settings.logging verbose).exec session).1 with
    | ok => exact absurd (exec_startLog_ok_iff.1 ⟨_, Prod.ext hstart rfl⟩) hlog
    | error why => rw [hrequests, requests_patch_of_not_started (.inr ⟨settings, hload, hstart⟩)]
  · obtain ⟨ready, hstart⟩ : ∃ ready, (startLog settings.logging verbose).exec session = (.ok (), ready) :=
      exec_startLog_ok_iff.2 hlog
    obtain ⟨-, original, hfound⟩ := found_of_read_patch hline
    obtain ⟨disk, sinks, rfl, -, hgrows⟩ := logging_of_startLog hstart
    obtain ⟨contents, hread, hsame⟩ := Disk.read_of_grows hgrows (Disk.read_of_examine hfound)
    refine ⟨_, original, contents, hstart, hfound, hread, hsame, ?_⟩
    intro components digits
    rw [requests_patch_of_started ⟨hload, hstart⟩ hread] at hrequests
    let options := patchOptions settings.diff verbose exclude strip reverse
    refine ⟨fun hquiet => ?_, fun ⟨hstrip, hcontents, hshort⟩ => ?_⟩
    · have hnone : (Tree.patch settings.diff session.directory session.tool target contents options).requests = [] := by
        by_contra hne
        obtain ⟨hstrip, hcontents, hshort⟩ := Tree.requests_patch_ne_nil_iff.1 hne
        rcases hquiet with hnegative | hempty | hlong
        · exact Int.not_lt.2 hstrip hnegative
        · exact hcontents hempty
        · exact Nat.not_lt.2 hshort hlong
      rw [hrequests, hnone, List.append_nil]
    · have hr := Tree.replayRequest_of_written (o := options) (Text.write_eq_ok hshort) settings.diff
        (Tree.Path.resolve session.directory target) contents
      rw [Tree.patch_of_request hstrip hcontents hr, Tree.requests_start] at hrequests
      exact ⟨_, hrequests, rfl, rfl⟩

end

/-! ## Furnished workshops -/

open scoped Terminal.SmallLexicon

/-- The workshop with settings in the second of the files in which they are looked for. -/
def furnishedWorkshop : Session :=
  let document := "diff:\n  strip_slashes: 1\n  excluded_paths: [vendor/*]\n  verbose: true\n"
  { workshop with disk := workshop.disk.put ["tree-migrate.yml".toList] (.file (Text.encodeUtf8 document)) }

/-- The settings in the furnished workshop. -/
def furnishedSettings : Settings :=
  let plain : Settings := {}
  { plain with diff := { plain.diff with stripSlashes := 1, excludedPaths := ["vendor/*"], verbose := true } }

/-- A line for the furnished workshop, with a pattern that looks like a switch. -/
def furnishedWords : List String :=
  programWords none false ++ "patch" :: patchWords "left" "a.diff" ["-R"] (some "0") true

/-- Patterns of both sources, messages that the settings ask for, and a number of components that counts although
it is 0. -/
theorem run_patch_composes_in_workshop :
    ∃ request, (run furnishedWorkshop furnishedWords).session.requests = [request] ∧
      request.command = ["git", "apply", "-p0", "-v", "--exclude=vendor/*", "--exclude=-R", "-R", "-"] ∧
      request.input = some [100] := by
  have hline : Invocation.read furnishedWorkshop.disk furnishedWorkshop.directory furnishedWords =
      .ok ⟨none, false, .patch "left" "a.diff" ["-R"] (some 0) true⟩ := by
    have hzero : Numeral.parse "0" = .ok 0 := by decide +kernel
    have htarget : furnishedWorkshop.disk.examine furnishedWorkshop.directory "left" = .ok .directory := by
      decide +kernel
    have hfile : furnishedWorkshop.disk.examine furnishedWorkshop.directory "a.diff" = .ok (.file [100]) := by
      decide +kernel
    rw [furnishedWords, read_patchLine (by simp) (by simp [hzero]) htarget hfile, Option.bind_some, hzero]
    rfl
  have hload : ((loadSettings none).exec furnishedWorkshop).1 = .ok furnishedSettings :=
    ok_of_toOption (by decide +kernel)
  have hlog : furnishedWorkshop.CanLog furnishedSettings.logging := by
    have hstart : ((startLog furnishedSettings.logging false).exec furnishedWorkshop).1 = .ok () :=
      ok_of_toOption (by decide +kernel)
    exact exec_startLog_ok_iff.1 ⟨_, Prod.ext hstart rfl⟩
  obtain ⟨-, -, hloaded⟩ := run_patch_composes furnishedWorkshop furnishedWords hline
  obtain ⟨ready, _, contents, hstart, -, hread, -, -, hasks⟩ := (hloaded furnishedSettings hload).2 hlog
  obtain rfl : contents = [100] := by
    have hfile : ((startLog furnishedSettings.logging false).exec furnishedWorkshop).2.disk.read
        (furnishedWorkshop.path "a.diff") = .ok [100] := ok_of_toOption (by decide +kernel)
    rw [hstart] at hfile
    exact Except.ok.inj (hread.symm.trans hfile)
  obtain ⟨request, hrequests, hcommand, hinput⟩ := hasks ⟨by decide, by decide, by decide +kernel⟩
  exact ⟨request, hrequests, hcommand.trans (by decide +kernel), hinput⟩

/-! ## A number that is loaded but not written -/

/-- The workshop with some bytes in the first of the files in which settings are looked for. -/
def suppliedWorkshop (contents : List UInt8) : Session :=
  { workshop with disk := workshop.disk.put ["tree-migrate.yaml".toList] (.file contents) }

/-- The settings with some number of components. -/
def settingsOfStrip (n : Nat) : Settings :=
  let plain : Settings := default
  { plain with diff := { plain.diff with stripSlashes := n } }

theorem ofDocument_strip (n : Nat) :
    Settings.ofDocument (.map [(.text "diff", .map [(.text "strip_slashes", .int n)])]) = .ok (settingsOfStrip n) := rfl

/-- The workshop with a power of sixteen as the number of components, in base sixteen. -/
def powerWorkshop (k : Nat) : Session :=
  suppliedWorkshop (Text.encodeUtf8 (Yaml.numberDocument ('1' :: List.replicate k '0')))

theorem load_powerWorkshop {k : Nat} (hk : k < 4000) :
    ((loadSettings none).exec (powerWorkshop k)).1 = .ok (settingsOfStrip (16 ^ k)) := by
  have hdigits : Yaml.IsHexadecimal ('1' :: List.replicate k '0') := by
    have hmem : '1' ∈ Yaml.hexDigits ∧ '0' ∈ Yaml.hexDigits := by decide +kernel
    refine ⟨List.cons_ne_nil _ _, fun d hd => ?_⟩
    rcases List.mem_cons.1 hd with rfl | hd
    · exact hmem.1
    · rw [(List.mem_replicate.1 hd).2]
      exact hmem.2
  have hchosen (contents : List UInt8) : (suppliedWorkshop contents).settingsFile? none = some "tree-migrate.yaml" := rfl
  have hread (contents : List UInt8) :
      (suppliedWorkshop contents).disk.read ((suppliedWorkshop contents).path "tree-migrate.yaml") = .ok contents := rfl
  have hcount : ('1' :: List.replicate k '0').length = k + 1 := by rw [List.length_cons, List.length_replicate]
  have hdocument := Yaml.load_numberDocument hdigits (hcount.trans_le hk)
  rw [Yaml.valueIn_one_zeros] at hdocument
  rw [powerWorkshop, exec_loadSettings_of_some (hchosen _), exec_loadFile_of_read (hread _), Settings.ofBytes,
    hdocument]
  exact ofDocument_strip _

theorem canLog_powerWorkshop (k n : Nat) : (powerWorkshop k).CanLog (settingsOfStrip n).logging := by
  have hplain : workshop.CanLog (default : Settings).logging := by
    have hstart : ((startLog (default : Settings).logging false).exec workshop).1 = .ok () :=
      ok_of_toOption (by decide +kernel)
    exact exec_startLog_ok_iff.1 ⟨_, Prod.ext hstart rfl⟩
  exact ⟨hplain.sense, nofun⟩

theorem read_powerWorkshop (k : Nat) : (powerWorkshop k).disk.read ((powerWorkshop k).path "a.diff") = .ok [100] := by
  have hread (contents : List UInt8) :
      (suppliedWorkshop contents).disk.read ((suppliedWorkshop contents).path "a.diff") = .ok [100] := rfl
  exact hread _

theorem requests_powerWorkshop {k : Nat} (hk : k < 4000) (hdigits : Numeral.maxDigits < (Text.digits (16 ^ k)).length) :
    (run (powerWorkshop k) ["patch", "--", "left", "a.diff"]).session.requests = [] := by
  have htarget (contents : List UInt8) : (suppliedWorkshop contents).disk.examine (suppliedWorkshop contents).directory
      "left" = .ok .directory := by
    rw [Disk.examine_name (by decide +kernel)]
    rfl
  have hfile (contents : List UInt8) : (suppliedWorkshop contents).disk.examine (suppliedWorkshop contents).directory
      "a.diff" = .ok (.file [100]) := by
    rw [Disk.examine_name (by decide +kernel)]
    rfl
  have hline : Invocation.read (powerWorkshop k).disk (powerWorkshop k).directory ["patch", "--", "left", "a.diff"] =
      .ok ⟨none, false, .patch "left" "a.diff" [] none false⟩ := by
    have hwords : ["patch", "--", "left", "a.diff"] =
        programWords none false ++ "patch" :: patchWords "left" "a.diff" [] none false := rfl
    rw [hwords]
    exact read_patchLine nofun nofun (htarget _) (hfile _)
  obtain ⟨-, hsession⟩ := run_of_invocation hline
  obtain ⟨ready, hstart⟩ := exec_startLog_ok_iff.2 (canLog_powerWorkshop k (16 ^ k))
  obtain ⟨disk, sinks, rfl, -, hgrows⟩ := logging_of_startLog hstart
  obtain ⟨contents, hread, -⟩ := Disk.read_of_grows hgrows (read_powerWorkshop k)
  have hrequests : (run (powerWorkshop k) ["patch", "--", "left", "a.diff"]).session.requests =
      ((patch none false "left" "a.diff" [] none false).exec (powerWorkshop k)).2.requests :=
    congrArg Session.requests hsession
  have hnone : (powerWorkshop k).requests = [] := rfl
  rw [hrequests, requests_patch_of_started ⟨load_powerWorkshop hk, hstart⟩ hread, hnone, List.nil_append]
  by_contra hne
  obtain ⟨-, -, hshort⟩ := Tree.requests_patch_ne_nil_iff.1 hne
  exact Nat.not_lt.2 hshort hdigits

/-- **A number of components with too many digits is loaded, but nothing is started with it**, although it is not
negative and the file of the difference is not empty. -/
theorem run_patch_starts_nothing_for_long_strip :
    ((loadSettings none).exec (powerWorkshop 3600)).1 = .ok (settingsOfStrip (16 ^ 3600)) ∧
      (powerWorkshop 3600).CanLog (settingsOfStrip (16 ^ 3600)).logging ∧
      (powerWorkshop 3600).disk.read ((powerWorkshop 3600).path "a.diff") = .ok [100] ∧
      (run (powerWorkshop 3600) ["patch", "--", "left", "a.diff"]).session.requests = [] := by
  have hlong : Numeral.maxDigits < (Text.digits (16 ^ 3600)).length := by
    rw [← Nat.not_le, Text.length_digits_le_iff (by decide)]
    decide +kernel
  exact ⟨load_powerWorkshop (by decide), canLog_powerWorkshop _ _, read_powerWorkshop _,
    requests_powerWorkshop (by decide) hlong⟩

end Transplant.Command
