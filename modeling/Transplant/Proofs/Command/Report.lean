import Transplant.Proofs.Command.Exec
import Transplant.Proofs.Terminal.Tokens
import Transplant.Terminal.SmallLexicon

/-!
# What a command reports

A command tells of its success within the same attempt in which it works, and puts the names from the command
line into a message with markup. A name in which a tag is read can so turn a success into a failure.

Main statement: `run_reports` says when the status of a `diff` or `patch` command is 0: when the operation
returned, its bytes are in the file that was asked for, and the message can be told. A message from names
without an opening bracket can always be told.
-/

namespace Transplant.Command

variable {s s' : Session}

/-! ## Messages -/

/-- The sign of something done. -/
def tick : Terminal.Markup.Mark :=
  { style := ['g', 'r', 'e', 'e', 'n']
    sign := ['✓']
    name := "green"
    isTag := by decide
    isName := by decide
    isTrimmed := by decide +kernel
    normal := by decide +kernel
    draws := by decide +kernel
    before := ⟨Terminal.Markup.tagless_of_plain (by decide), by decide⟩
    unescaped := by decide
    uncoded := by decide
    kept := List.all_iff_forall_prop.1 (by decide) }

theorem toList_success (text : String) : (success text).toList = tick.text ++ ' ' :: text.toList := by
  have htick : "[green]✓[/green] ".toList = tick.text ++ [' '] := by decide +kernel
  have happend : (success text).toList = "[green]✓[/green] ".toList ++ text.toList := String.toList_append
  rw [happend, htick, List.append_assoc, List.singleton_append]

section

variable [Terminal.Lexicon]

/-- Whether a message makes sense as markup, so that it can be told. -/
def Tellable (markup : String) : Prop :=
  ∃ line, Terminal.printed terminalWidth markup = .ok line

/-- **A message without an opening bracket of its own can be told.** -/
theorem tellable_success {text : String} (hplain : '[' ∉ text.toList) : Tellable (success text) := by
  have hvisible := tick.visible_tagless (toList_success text) (Terminal.Markup.tagless_of_plain hplain)
  rw [Tellable, Terminal.printed, Terminal.rendered, hvisible]
  exact ⟨_, rfl⟩

theorem exec_print (markup : String) (s : Session) :
    (print markup).exec s =
      match Terminal.printed terminalWidth markup with
      | .ok line => (.ok (), { s with output := s.output ++ Text.encodeUtf8 line })
      | .error fault => (.error (.markup fault), s) := by
  unfold print
  cases Terminal.printed terminalWidth markup with
  | ok line => rfl
  | error fault => exact exec_display_error fault s

theorem exec_print_ok_iff {markup : String} : ((print markup).exec s).1 = .ok () ↔ Tellable markup := by
  rw [exec_print, Tellable]
  cases Terminal.printed terminalWidth markup with
  | ok line => exact ⟨fun _ => ⟨line, rfl⟩, fun _ => rfl⟩
  | error fault => exact ⟨nofun, nofun⟩

/-- A message leads to more output, if to anything. -/
theorem session_print (markup : String) (s : Session) :
    ∃ output, ((print markup).exec s).2 = { s with output := output } := by
  rw [exec_print]
  cases Terminal.printed terminalWidth markup with
  | ok line => exact ⟨_, rfl⟩
  | error fault => exact ⟨s.output, rfl⟩

theorem disk_print (markup : String) (s : Session) : ((print markup).exec s).2.disk = s.disk := by
  obtain ⟨output, hprint⟩ := session_print markup s
  rw [hprint]

/-! ## Attempts -/

theorem exec_attempt_of_ok {body : Step Unit} (h : body.exec s = (.ok (), s')) (excuse : Failure → String) :
    (attempt body excuse).exec s = (.ok 0, s') := by
  rw [attempt_eq, exec_tryCatch, exec_bind_ok h]
  rfl

theorem exec_attempt_of_error {body : Step Unit} {why : Failure} (h : body.exec s = (.error why, s'))
    (excuse : Failure → String) :
    (attempt body excuse).exec s =
      match Terminal.printed terminalWidth (lament (excuse why)) with
      | .ok line => (.ok 1, { s' with output := s'.output ++ Text.encodeUtf8 line })
      | .error fault => (.error (.markup fault), s') := by
  rw [attempt_eq, exec_tryCatch, exec_bind_error h]
  dsimp only
  rw [exec_bind, exec_print]
  cases Terminal.printed terminalWidth (lament (excuse why)) <;> rfl

/-- **An attempt succeeds if what is attempted does**, the message of its success included. -/
theorem exec_attempt_zero_iff {body : Step Unit} {excuse : Failure → String} :
    ((attempt body excuse).exec s).1 = .ok 0 ↔ (body.exec s).1 = .ok () := by
  cases hbody : body.exec s with
  | mk outcome after =>
    cases outcome with
    | ok result =>
      rw [exec_attempt_of_ok hbody]
      exact ⟨fun _ => rfl, fun _ => rfl⟩
    | error why =>
      rw [exec_attempt_of_error hbody]
      cases Terminal.printed terminalWidth (lament (excuse why)) <;> exact ⟨nofun, nofun⟩

/-- An attempt leaves behind what the attempted step does, but for the message of a failure. -/
theorem session_attempt (body : Step Unit) (excuse : Failure → String) (s : Session) :
    ∃ output, ((attempt body excuse).exec s).2 = { (body.exec s).2 with output := output } := by
  cases hbody : body.exec s with
  | mk outcome after =>
    cases outcome with
    | ok result => exact ⟨after.output, by rw [exec_attempt_of_ok hbody]⟩
    | error why =>
      rw [exec_attempt_of_error hbody]
      cases Terminal.printed terminalWidth (lament (excuse why)) with
      | ok line => exact ⟨_, rfl⟩
      | error fault => exact ⟨after.output, rfl⟩

theorem disk_attempt (body : Step Unit) (excuse : Failure → String) (s : Session) :
    ((attempt body excuse).exec s).2.disk = (body.exec s).2.disk := by
  obtain ⟨output, hattempt⟩ := session_attempt body excuse s
  rw [hattempt]

end

/-! ## Operations -/

/-- The settings of a command are loaded and its log is started; what is left is the session after that. -/
structure Started (s : Session) (config : Option String) (verbose : Bool) (settings : Settings)
    (s' : Session) : Prop where
  loaded : ((loadSettings config).exec s).1 = .ok settings
  started : (startLog settings.logging verbose).exec s = (.ok (), s')

/-- The comparison of a `diff` command is called and returns the difference. -/
def Compares (s : Session) (config : Option String) (verbose : Bool) (left right : String)
    (contents : Tree.Bytes) : Prop :=
  ∃ settings s', Started s config verbose settings s' ∧
    (Tree.diff settings.diff s'.directory s'.tool left right
      (verbose || settings.diff.verbose)).outcome = .ok contents

/-- The replay of a `patch` command is called and returns. -/
def Replays (s : Session) (config : Option String) (verbose : Bool) (target diffFile : String)
    (exclude : List String) (strip : Option Int) (reverse : Bool) : Prop :=
  ∃ settings s' contents, Started s config verbose settings s' ∧
    ((readFile diffFile).exec s').1 = .ok contents ∧
    (Tree.patch settings.diff s'.directory s'.tool target contents
      (patchOptions settings.diff verbose exclude strip reverse)).outcome = .ok ()

/-- A command goes on behind its start, or it cannot be started and fails. -/
theorem exec_start {α : Type} (config : Option String) (verbose : Bool) (act : Settings → Step α)
    (s : Session) :
    (∃ settings s', Started s config verbose settings s' ∧
      (loadSettings config >>= fun settings =>
        startLog settings.logging verbose >>= fun _ => act settings).exec s = (act settings).exec s') ∨
    (¬ ∃ settings s', Started s config verbose settings s') ∧
      ∃ why, ((loadSettings config >>= fun settings =>
        startLog settings.logging verbose >>= fun _ => act settings).exec s).1 = .error why := by
  have hsame := session_loadSettings config s
  rw [exec_bind]
  cases hload : ((loadSettings config).exec s).1 with
  | error why =>
    refine .inr ⟨?_, why, rfl⟩
    rintro ⟨settings, s', hstarted⟩
    cases hload.symm.trans hstarted.loaded
  | ok settings =>
    dsimp only
    rw [hsame, exec_bind]
    cases hstart : (startLog settings.logging verbose).exec s with
    | mk outcome s' =>
      cases outcome with
      | ok started => exact .inl ⟨settings, s', ⟨hload, hstart⟩, rfl⟩
      | error why =>
        refine .inr ⟨?_, why, rfl⟩
        rintro ⟨settings', s'', hstarted⟩
        obtain rfl := Except.ok.inj (hload.symm.trans hstarted.loaded)
        cases hstart.symm.trans hstarted.started

namespace Started

variable {config : Option String} {verbose : Bool} {settings settings' : Settings} {t : Session}

theorem unique (h : Started s config verbose settings s') (h' : Started s config verbose settings' t) :
    settings' = settings ∧ t = s' := by
  obtain rfl := Except.ok.inj (h.loaded.symm.trans h'.loaded)
  exact ⟨rfl, (Prod.mk.inj (h'.started.symm.trans h.started)).2⟩

/-- Behind the start of a command an activity ends as its outcome says. -/
theorem exec_perform {α : Type} (h : Started s config verbose settings s') (a : Tree.Activity α) :
    ∃ after, (perform a).exec s' = (a.outcome, after) ∧ after.directory = s.directory := by
  obtain ⟨disk, sinks, rfl, hlogging, -⟩ := logging_of_startLog h.started
  obtain ⟨disk', hperform⟩ := Command.exec_perform hlogging a
  exact ⟨_, hperform, rfl⟩

theorem compares_iff (h : Started s config verbose settings s') {left right : String} {contents : Tree.Bytes} :
    Compares s config verbose left right contents ↔
      (Tree.diff settings.diff s'.directory s'.tool left right
        (verbose || settings.diff.verbose)).outcome = .ok contents := by
  constructor
  · rintro ⟨settings', t, h', hreturned⟩
    obtain ⟨rfl, rfl⟩ := h.unique h'
    exact hreturned
  · exact fun hreturned => ⟨settings, s', h, hreturned⟩

theorem replays_iff (h : Started s config verbose settings s') {target diffFile : String}
    {exclude : List String} {strip : Option Int} {reverse : Bool} :
    Replays s config verbose target diffFile exclude strip reverse ↔
      ∃ contents, ((readFile diffFile).exec s').1 = .ok contents ∧
        (Tree.patch settings.diff s'.directory s'.tool target contents
          (patchOptions settings.diff verbose exclude strip reverse)).outcome = .ok () := by
  constructor
  · rintro ⟨settings', t, contents, h', hreturned⟩
    obtain ⟨rfl, rfl⟩ := h.unique h'
    exact ⟨contents, hreturned⟩
  · rintro ⟨contents, hreturned⟩
    exact ⟨settings, s', contents, h, hreturned⟩

end Started

/-! ## Refused lines -/

/-- A command line about which nothing is done, other than to show a page or the version, ends with another
status than 0. -/
theorem report_of_stop {stop : Stop} (hhelp : stop ≠ .help) (hversion : stop ≠ .version) (page : Signature)
    (session : Session) :
    (stop.report page session).status ≠ 0 ∧ (stop.report page session).session = session := by
  cases stop with
  | help => exact absurd rfl hhelp
  | version => exact absurd rfl hversion
  | bare | misuse | disk => exact ⟨Nat.succ_ne_zero _, rfl⟩

/-! ## Delivery -/

section

variable [Terminal.Lexicon]

/-- A file is written and told of if it has the contents in the end and the message can be told. -/
theorem exec_writeAndTell_ok_iff {file : String} {contents : List UInt8} {markup : String} :
    ((writeFile file contents >>= fun _ => print markup).exec s).1 = .ok () ↔
      ((writeFile file contents >>= fun _ => print markup).exec s).2.disk.read (s.path file) = .ok contents ∧
        Tellable markup := by
  have hwritten : ((writeFile file contents).exec s).1 = .ok () ↔ _ := exec_writeFile_ok_iff
  rw [exec_bind]
  cases hwrite : ((writeFile file contents).exec s).1 with
  | ok written =>
    dsimp only
    rw [exec_print_ok_iff, disk_print]
    exact ⟨fun htold => ⟨hwritten.mp hwrite, htold⟩, fun h => h.2⟩
  | error why =>
    refine ⟨nofun, fun h => ?_⟩
    cases hwrite.symm.trans (hwritten.mpr h.1)

/-! ## Commands -/

/-- Delivers a difference: to the file that was asked for, else to the standard output. -/
def deliver (output : Option String) (contents : Tree.Bytes) : Step Unit :=
  match Log.given? output with
  | some file => writeFile file contents >>= fun _ => print (success ("Diff written to: " ++ file))
  | none => echo contents

theorem exec_deliver_ok_iff {output : Option String} {contents : Tree.Bytes} :
    ((deliver output contents).exec s).1 = .ok () ↔
      ∀ file, Log.given? output = some file →
        ((deliver output contents).exec s).2.disk.read (s.path file) = .ok contents ∧
          Tellable (success ("Diff written to: " ++ file)) := by
  unfold deliver
  cases Log.given? output with
  | none => exact ⟨fun _ => nofun, fun _ => rfl⟩
  | some file =>
    dsimp only
    rw [exec_writeAndTell_ok_iff]
    refine ⟨?_, fun h => h file rfl⟩
    rintro h _ ⟨⟩
    exact h

/-- What a `diff` command does behind its start. -/
def compareAndDeliver (verbose : Bool) (left right : String) (output : Option String) (settings : Settings) :
    Step Unit :=
  get >>= fun s =>
    perform (Tree.diff settings.diff s.directory s.tool left right (verbose || settings.diff.verbose)) >>=
      deliver output

theorem diff_eq (config : Option String) (verbose : Bool) (left right : String) (output : Option String) :
    diff config verbose left right output =
      attempt
        (loadSettings config >>= fun settings =>
          startLog settings.logging verbose >>= fun _ =>
            compareAndDeliver verbose left right output settings)
        fun why => "Diff failed: " ++ why.message :=
  rfl

/-- **When the status of a `diff` command is 0.** -/
theorem exec_diff_zero_iff (config : Option String) (verbose : Bool) (left right : String)
    (output : Option String) (s : Session) :
    ((diff config verbose left right output).exec s).1 = .ok 0 ↔
      ∃ contents, Compares s config verbose left right contents ∧
        ∀ file, Log.given? output = some file →
          ((diff config verbose left right output).exec s).2.disk.read (s.path file) = .ok contents ∧
            Tellable (success ("Diff written to: " ++ file)) := by
  rw [diff_eq, exec_attempt_zero_iff, disk_attempt]
  obtain ⟨settings, s', hstarted, hexec⟩ | ⟨hnot, why, hfail⟩ :=
    exec_start config verbose (compareAndDeliver verbose left right output) s
  · obtain ⟨after, hperform, hdirectory⟩ := hstarted.exec_perform
      (Tree.diff settings.diff s'.directory s'.tool left right (verbose || settings.diff.verbose))
    have hpath (file : String) : s.path file = after.path file := by
      rw [Session.path, Session.path, hdirectory]
    simp only [hstarted.compares_iff, hpath]
    rw [hexec, compareAndDeliver, exec_bind_ok (exec_get s')]
    cases houtcome : (Tree.diff settings.diff s'.directory s'.tool left right
        (verbose || settings.diff.verbose)).outcome with
    | error why =>
      rw [houtcome] at hperform
      rw [exec_bind_error hperform]
      constructor
      · intro hok
        cases hok
      · rintro ⟨_, hreturned, -⟩
        cases hreturned
    | ok contents =>
      rw [houtcome] at hperform
      rw [exec_bind_ok hperform, exec_deliver_ok_iff]
      refine ⟨fun h => ⟨contents, rfl, h⟩, ?_⟩
      rintro ⟨_, ⟨⟩, h⟩
      exact h
  · rw [hfail]
    refine ⟨fun hok => ?_, ?_⟩
    · cases hok
    · rintro ⟨contents, ⟨settings, s', hstarted, -⟩, -⟩
      exact absurd ⟨settings, s', hstarted⟩ hnot

/-- What a `patch` command does behind its start. -/
def replayAndTell (verbose : Bool) (target diffFile : String) (exclude : List String) (strip : Option Int)
    (reverse : Bool) (settings : Settings) : Step Unit :=
  readFile diffFile >>= fun contents =>
    get >>= fun s =>
      perform (Tree.patch settings.diff s.directory s.tool target contents
        (patchOptions settings.diff verbose exclude strip reverse)) >>= fun _ =>
          print (success ((if reverse then "Reverted " else "Applied ") ++ diffFile ++ " on " ++ target))

theorem patch_eq (config : Option String) (verbose : Bool) (target diffFile : String) (exclude : List String)
    (strip : Option Int) (reverse : Bool) :
    patch config verbose target diffFile exclude strip reverse =
      attempt
        (loadSettings config >>= fun settings =>
          startLog settings.logging verbose >>= fun _ =>
            replayAndTell verbose target diffFile exclude strip reverse settings)
        patchExcuse :=
  rfl

/-- **When the status of a `patch` command is 0.** -/
theorem exec_patch_zero_iff (config : Option String) (verbose : Bool) (target diffFile : String)
    (exclude : List String) (strip : Option Int) (reverse : Bool) (s : Session) :
    ((patch config verbose target diffFile exclude strip reverse).exec s).1 = .ok 0 ↔
      Replays s config verbose target diffFile exclude strip reverse ∧
        Tellable (success ((if reverse then "Reverted " else "Applied ") ++ diffFile ++ " on " ++ target)) := by
  rw [patch_eq, exec_attempt_zero_iff]
  obtain ⟨settings, s', hstarted, hexec⟩ | ⟨hnot, why, hfail⟩ :=
    exec_start config verbose (replayAndTell verbose target diffFile exclude strip reverse) s
  · rw [hexec, hstarted.replays_iff, replayAndTell, exec_bind, exec_readFile]
    cases (s'.disk.read (s'.path diffFile)).mapError fun why =>
        Failure.disk why (Disk.Location.ofText diffFile).text with
    | error why => exact ⟨nofun, nofun⟩
    | ok contents =>
      dsimp only
      rw [exec_bind_ok (exec_get s')]
      obtain ⟨after, hperform, -⟩ := hstarted.exec_perform
        (Tree.patch settings.diff s'.directory s'.tool target contents
          (patchOptions settings.diff verbose exclude strip reverse))
      cases houtcome : (Tree.patch settings.diff s'.directory s'.tool target contents
          (patchOptions settings.diff verbose exclude strip reverse)).outcome with
      | error why =>
        rw [houtcome] at hperform
        rw [exec_bind_error hperform]
        refine ⟨nofun, ?_⟩
        rintro ⟨⟨_, ⟨⟩, hreturned⟩, -⟩
        cases houtcome.symm.trans hreturned
      | ok result =>
        rw [houtcome] at hperform
        rw [exec_bind_ok hperform, exec_print_ok_iff]
        exact ⟨fun htold => ⟨⟨contents, rfl, houtcome⟩, htold⟩, fun h => h.2⟩
  · rw [hfail]
    refine ⟨nofun, ?_⟩
    rintro ⟨⟨settings, s', contents, hstarted, -⟩, -⟩
    exact absurd ⟨settings, s', hstarted⟩ hnot

/-! ## The program -/

theorem run_of_stop {session : Session} {words : List String} {page : Signature} {stop : Stop}
    (h : Invocation.read session.disk session.directory words = .error (page, stop)) :
    run session words = stop.report page session := by
  rw [run, h]

theorem run_of_invocation {session : Session} {words : List String} {i : Invocation}
    (h : Invocation.read session.disk session.directory words = .ok i) :
    ((run session words).status = 0 ↔ ((act i).exec session).1 = .ok 0) ∧
      (run session words).session = ((act i).exec session).2 := by
  rw [run, h]
  dsimp only
  cases (act i).exec session with
  | mk outcome after =>
    cases outcome with
    | ok status => exact ⟨⟨congrArg Except.ok, Except.ok.inj⟩, rfl⟩
    | error why => exact ⟨⟨nofun, nofun⟩, rfl⟩

/-- **A `diff` or `patch` command reports what happened, if its message can be told.** A line that is refused ends
with another status than 0 and nothing is called. Otherwise the status is 0 exactly if the operation was called
and returned, the bytes are in the file that was asked for, and the message of the success makes sense as markup.
It does where no opening bracket stands in the names; only a name with a tag can turn a success into a failure. -/
theorem run_reports (session : Session) (words : List String) :
    let report := run session words
    let line := Invocation.read session.disk session.directory words
    (∀ page stop, line = .error (page, stop) → stop ≠ .help → stop ≠ .version →
      report.status ≠ 0 ∧ report.session = session) ∧
    (∀ config verbose left right output,
      line = .ok ⟨config, verbose, .diff left right output⟩ →
      (report.status = 0 ↔ ∃ contents, Compares session config verbose left right contents ∧
        ∀ file, Log.given? output = some file →
          report.session.disk.read (session.path file) = .ok contents ∧
            Tellable (success ("Diff written to: " ++ file)))) ∧
    (∀ config verbose target diffFile exclude strip reverse,
      line = .ok ⟨config, verbose, .patch target diffFile exclude strip reverse⟩ →
      (report.status = 0 ↔ Replays session config verbose target diffFile exclude strip reverse ∧
        Tellable (success ((if reverse then "Reverted " else "Applied ") ++ diffFile ++ " on " ++ target)))) ∧
    ∀ text : String, '[' ∉ text.toList → Tellable (success text) := by
  intro report line
  refine ⟨?_, ?_, ?_, fun text => tellable_success⟩
  · intro page stop hline hhelp hversion
    have hreport : report = stop.report page session := run_of_stop hline
    rw [hreport]
    exact report_of_stop hhelp hversion page session
  · intro config verbose left right output hline
    obtain ⟨hstatus, hsession⟩ := run_of_invocation hline
    rw [hstatus, hsession]
    exact exec_diff_zero_iff config verbose left right output session
  · intro config verbose target diffFile exclude strip reverse hline
    obtain ⟨hstatus, -⟩ := run_of_invocation hline
    rw [hstatus]
    exact exec_patch_zero_iff config verbose target diffFile exclude strip reverse session

end

/-! ## A workshop -/

open scoped Terminal.SmallLexicon

theorem error_of_stop? {x : Except (Signature × Stop) Invocation} {stop : Stop}
    (h : (match x with
      | .error (_, stop) => some stop
      | .ok _ => none) = some stop) : ∃ page, x = .error (page, stop) := by
  match x, h with
  | .error (page, _), rfl => exact ⟨page, rfl⟩

/-- A session in the root directory, with two directories to compare and two differences of one byte to replay;
the tool does whatever it is asked to do. -/
def workshop : Session :=
  { directory := ⟨false, []⟩
    environment := []
    tool := fun _ => .completed 0 [] []
    disk := ⟨[ (["left".toList], .directory), (["right".toList], .directory)
             , (["a.diff".toList], .file [100])
             , (["a[".toList], .directory), (["a[".toList, "b].diff".toList], .file [100]) ]⟩ }

/-- A difference that is written to a file, a difference that is taken back, and a line with a word too few. -/
theorem run_reports_in_workshop :
    (∃ contents, Compares workshop none false "left" "right" contents) ∧
    Replays workshop none false "left" "a.diff" [] none true ∧
    (run workshop ["patch", "left"]).session = workshop ∧
    Tellable (success "Applied a.diff on left") := by
  have hdiff := (run_reports workshop ["diff", "left", "right", "-o", "out"]).2.1 none false "left" "right"
    (some "out") (ok_of_toOption (by decide +kernel))
  have hpatch := (run_reports workshop ["patch", "left", "a.diff", "--reverse"]).2.2.1 none false "left"
    "a.diff" [] none true (ok_of_toOption (by decide +kernel))
  obtain ⟨hrefused, -, -, htellable⟩ := run_reports workshop ["patch", "left"]
  obtain ⟨contents, hcompares, -⟩ := hdiff.mp (by decide +kernel)
  obtain ⟨page, hline⟩ := error_of_stop? (x := Invocation.read workshop.disk workshop.directory ["patch", "left"])
    (show _ = some (Stop.misuse (.missingArgument "DIFF_FILE")) by decide +kernel)
  exact ⟨⟨contents, hcompares⟩, (hpatch.mp (by decide +kernel)).1, (hrefused page _ hline nofun nofun).2,
    htellable _ (by decide)⟩

/-- The session after the start of a command in the workshop. -/
def readyWorkshop : Session :=
  ((startLog ({} : Settings).logging false).exec workshop).2

/-- **A patch that was applied is reported as a failure** when a closing tag is read in the name of its file: the
replay was called and returned, but the status is 1. -/
theorem run_fails_after_replay :
    let report := run workshop ["patch", "left", "a[/b].diff"]
    Replays workshop none false "left" "a[/b].diff" [] none false ∧
    report.session.requests.map (fun request => (request.directory.text, request.input)) =
      [("/left", some [100])] ∧
    report.status = 1 := by
  refine ⟨⟨{}, readyWorkshop, [100], ⟨?_, ?_⟩, ?_, ?_⟩, by decide +kernel, by decide +kernel⟩
  · exact ok_of_toOption (by decide +kernel)
  · exact Prod.ext (ok_of_toOption (by decide +kernel)) rfl
  · exact ok_of_toOption (by decide +kernel)
  · exact ok_of_toOption (by decide +kernel)

end Transplant.Command
