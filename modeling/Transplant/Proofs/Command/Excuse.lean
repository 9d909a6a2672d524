import Transplant.Proofs.Command.Keeps
import Transplant.Proofs.Command.Report
import Transplant.Proofs.Terminal.Tokens
import Transplant.Proofs.Terminal.Wrap
import Transplant.Proofs.Text.Utf8
import Transplant.Terminal.SmallLexicon

/-!
# What a command tells of a failure

A command that fails has told nothing before. Its excuse is printed as markup, though it is put together from names,
settings and messages of the tool as they are: tags in it are not shown, and one that has no sense keeps the whole
excuse from being told.

Main statement: `run_tells_failure`.
-/

namespace Transplant.Command

open Terminal Terminal.Markup Text

variable {γ : Type} {part : Session → γ}

/-! ## The text of an excuse -/

/-- The sign of something not done. -/
def cross : Mark :=
  { style := "red".toList
    sign := ['✗']
    name := "red"
    isTag := by decide +kernel
    isName := by decide +kernel
    isTrimmed := by decide +kernel
    normal := by decide +kernel
    draws := by decide +kernel
    before := ⟨tagless_of_plain (by decide), by decide⟩
    unescaped := by decide
    uncoded := by decide
    kept := List.all_iff_forall_prop.1 (by decide) }

/-- A text behind the sign of something not done. -/
def crossed (text : List Char) : List Char :=
  '✗' :: ' ' :: text

theorem toList_lament (text : String) : (lament text).toList = cross.text ++ ' ' :: text.toList := by
  have hcross : "[red]✗[/red] ".toList = cross.text ++ [' '] := by decide +kernel
  have happend : (lament text).toList = "[red]✗[/red] ".toList ++ text.toList := String.toList_append
  rw [happend, hcross, List.append_assoc, List.singleton_append]

theorem wraps_crossed {text : List Char} (htab : '\t' ∉ text) (hsteady : ∀ line ∈ lines text, Steady line) :
    Wraps (crossed text) (layOut terminalWidth (crossed text)) :=
  have hsign : Steady (['✗'] ++ [' ']) ∧ '\n' ∉ ['✗'] ∧ '\t' ∉ ['✗'] := by decide +kernel
  wraps_behind hsign (by decide) hsteady htab

section

variable [Lexicon]

/-- **When an excuse is shown word for word**: it has no tag, no escaped bracket, no code that is replaced and no
character that is dropped. -/
theorem visible_lament_iff (text : String) :
    visible (lament text) = .ok (crossed text.toList) ↔
      Tagless text.toList ∧ ¬HasEscaped text.toList ∧ replaceCodes text.toList.length text.toList = text.toList ∧
        ∀ c ∈ text.toList, isDropped c = false := by
  rw [← shown_eq_self_iff]
  exact cross.visible_eq_iff (toList_lament text)

/-! ## Failures -/

theorem spares_print (markup : String) : Spares part (print markup) := by
  intro s why hfail
  rw [exec_print] at hfail ⊢
  cases hprinted : printed terminalWidth markup with
  | ok line =>
    rw [hprinted] at hfail
    cases hfail
  | error fault => rfl

/-- What a `diff` command does. -/
def diffWork (config : Option String) (verbose : Bool) (left right : String) (output : Option String) : Step Unit :=
  loadSettings config >>= fun settings =>
    startLog settings.logging verbose >>= fun _ => compareAndDeliver verbose left right output settings

/-- What a `patch` command does. -/
def patchWork (config : Option String) (verbose : Bool) (target diffFile : String) (exclude : List String)
    (strip : Option Int) (reverse : Bool) : Step Unit :=
  loadSettings config >>= fun settings =>
    startLog settings.logging verbose >>= fun _ =>
      replayAndTell verbose target diffFile exclude strip reverse settings

/-- A comparison that fails has put nothing out. -/
theorem spares_diffWork (config : Option String) (verbose : Bool) (left right : String) (output : Option String) :
    Spares Session.output (diffWork config verbose left right output) := by
  refine .bind (.loadSettings config) fun settings => .bind (.startLog apart_output _ _) fun _ =>
    .bind .get fun s => .bind (keeps_perform _) fun contents => ?_
  unfold deliver
  cases Log.given? output with
  | some file => exact .bind (.writeFile apart_output file contents) fun _ => spares_print _
  | none => exact fun _ _ => nofun

/-- A replay that fails has put nothing out. -/
theorem spares_patchWork (config : Option String) (verbose : Bool) (target diffFile : String)
    (exclude : List String) (strip : Option Int) (reverse : Bool) :
    Spares Session.output (patchWork config verbose target diffFile exclude strip reverse) :=
  .bind (.loadSettings config) fun _ => .bind (.startLog apart_output _ _) fun _ =>
    .bind (.readFile diffFile) fun _ => .bind .get fun _ => .bind (keeps_perform _) fun _ => spares_print _

/-- Whether a run ends as a failure that is told by a text: nothing but the text behind its sign is put out, and
where that has no sense as markup nothing is put out and the fault escapes. -/
structure Laments (session : Session) (report : Report) (text : String) : Prop where
  status : report.status = 1
  told : ∀ line, printed terminalWidth (lament text) = .ok line →
    report.session.output = session.output ++ encodeUtf8 line ∧ report.escaped = none
  untold : ∀ fault, printed terminalWidth (lament text) = .error fault →
    report.session.output = session.output ∧ report.escaped = some (.markup fault)

theorem laments_of_attempt {session : Session} {words : List String} {i : Invocation} {body : Step Unit}
    {excuse : Failure → String} {why : Failure}
    (hline : Invocation.read session.disk session.directory words = .ok i) (hact : act i = attempt body excuse)
    (hspares : Spares Session.output body) (hfail : (body.exec session).1 = .error why) :
    Laments session (run session words) (excuse why) := by
  have houtput := hspares session why hfail
  have hbody : body.exec session = (.error why, (body.exec session).2) := Prod.ext hfail rfl
  rw [run, hline]
  dsimp only
  rw [hact, exec_attempt_of_error hbody]
  cases hprinted : printed terminalWidth (lament (excuse why)) with
  | ok line =>
    refine ⟨rfl, fun _ htold => ?_, fun _ huntold => ?_⟩
    · cases htold.symm.trans hprinted
      exact ⟨congrArg (· ++ encodeUtf8 line) houtput, rfl⟩
    · cases huntold.symm.trans hprinted
  | error fault =>
    refine ⟨rfl, fun _ htold => ?_, fun _ huntold => ?_⟩
    · cases htold.symm.trans hprinted
    · cases huntold.symm.trans hprinted
      exact ⟨houtput, rfl⟩

/-! ## Excuses -/

/-- **What a command tells of a failure.** A `diff` or `patch` command whose work fails ends with status 1. Behind its
sign it puts out the lead-in and the message of the failure, for a conflict the path and the messages of the tool, if
that has sense as markup; else it puts out nothing. The text is shown word for word just when it has no tag, no
escaped bracket, no code and no character that is dropped, and then it is written as it is, wrapping aside; a text
without an opening bracket and a code is such a text. -/
theorem run_tells_failure (session : Session) (words : List String) :
    let report := run session words
    let line := Invocation.read session.disk session.directory words
    (∀ config verbose left right output why, line = .ok ⟨config, verbose, .diff left right output⟩ →
      ((diffWork config verbose left right output).exec session).1 = .error why →
      Laments session report ("Diff failed: " ++ why.message)) ∧
    (∀ config verbose target diffFile exclude strip reverse why,
      line = .ok ⟨config, verbose, .patch target diffFile exclude strip reverse⟩ →
      ((patchWork config verbose target diffFile exclude strip reverse).exec session).1 = .error why →
      (∀ message path hunk stderr, why = .conflict message path hunk stderr →
        Laments session report ("Patch does not apply to " ++ path.getD "None" ++ ": " ++ stderr)) ∧
      ((∀ message path hunk stderr, why ≠ .conflict message path hunk stderr) →
        Laments session report ("Patch failed: " ++ why.message))) ∧
    ∀ text : String,
      (visible (lament text) = .ok (crossed text.toList) ↔
        Tagless text.toList ∧ ¬HasEscaped text.toList ∧
          replaceCodes text.toList.length text.toList = text.toList ∧ ∀ c ∈ text.toList, isDropped c = false) ∧
      ('[' ∉ text.toList → ¬HasCode text.toList → (∀ c ∈ text.toList, isDropped c = false) →
        visible (lament text) = .ok (crossed text.toList)) ∧
      (visible (lament text) = .ok (crossed text.toList) → '\t' ∉ text.toList →
        (∀ line ∈ lines text.toList, Steady line) →
        ∃ output, Wraps (crossed text.toList) output ∧
          printed terminalWidth (lament text) = .ok (String.ofList output ++ "\n")) := by
  intro report line
  refine ⟨fun config verbose left right output why hline hfail => ?_,
    fun config verbose target diffFile exclude strip reverse why hline hfail => ?_, fun text => ⟨?_, ?_, ?_⟩⟩
  · exact laments_of_attempt hline (diff_eq config verbose left right output)
      (spares_diffWork config verbose left right output) hfail
  · have hlaments := laments_of_attempt hline (patch_eq config verbose target diffFile exclude strip reverse)
      (spares_patchWork config verbose target diffFile exclude strip reverse) hfail
    constructor
    · rintro message path hunk stderr rfl
      exact hlaments
    · intro hother
      have hexcuse : patchExcuse why = "Patch failed: " ++ why.message := by
        unfold patchExcuse
        split
        · exact absurd rfl (hother _ _ _ _)
        · rfl
      rwa [hexcuse] at hlaments
  · exact visible_lament_iff text
  · intro hplain hcode hdropped
    refine (visible_lament_iff text).2
      ⟨tagless_of_plain hplain, fun hescaped => ?_, replaceCodes_of_not_hasCode hcode, hdropped⟩
    exact hplain (hescaped.subset (by simp))
  · intro hvisible htab hsteady
    refine ⟨_, wraps_crossed htab hsteady, ?_⟩
    rw [printed, rendered, hvisible]
    rfl

end

/-! ## Conflicts in the workshop -/

open scoped Terminal.SmallLexicon

/-- The path of a conflict and the messages of the tool, if a step failed with one. -/
def conflict? : Except Failure Unit → Option (Option String × String)
  | .error (.conflict _ path _ stderr) => some (path, stderr)
  | _ => none

theorem conflict?_eq_some {x : Except Failure Unit} {path : Option String} {stderr : String}
    (h : conflict? x = some (path, stderr)) : ∃ message hunk, x = .error (.conflict message path hunk stderr) := by
  unfold conflict? at h
  split at h
  · cases h
    exact ⟨_, _, rfl⟩
  · cases h

/-- The message of a tool that finds a conflict in a file. -/
def dispute (path : String) : String :=
  "error: patch failed: " ++ path ++ ":1\n"

/-- The excuse for the conflict. -/
def disputeExcuse (path : String) : String :=
  "Patch does not apply to " ++ path ++ ": " ++ dispute path

/-- The workshop with a tool that finds a conflict in a file. -/
def disputedWorkshop (path : String) : Session :=
  { workshop with tool := fun _ => .completed 1 [] (encodeUtf8 (dispute path)) }

/-- The report of a replay that finds the conflict. -/
def disputedReport (path : String) : Report :=
  run (disputedWorkshop path) ["patch", "left", "a.diff"]

theorem read_disputed (path : String) :
    Invocation.read (disputedWorkshop path).disk (disputedWorkshop path).directory ["patch", "left", "a.diff"] =
      .ok ⟨none, false, .patch "left" "a.diff" [] none false⟩ :=
  ok_of_toOption (x := Invocation.read workshop.disk workshop.directory _) (by decide +kernel)

/-- What the replay fails with. -/
def disputedOutcome (path : String) : Except Failure Unit :=
  ((patchWork none false "left" "a.diff" [] none false).exec (disputedWorkshop path)).1

/-- Brackets around a digit are not a tag, so that this conflict is told in full. -/
theorem run_tells_conflict :
    (disputedReport "pages/[1].tsx").status = 1 ∧
      ∃ output, Wraps (crossed (disputeExcuse "pages/[1].tsx").toList) output ∧
        (disputedReport "pages/[1].tsx").session.output = encodeUtf8 (String.ofList output ++ "\n") := by
  have hconflict : conflict? (disputedOutcome "pages/[1].tsx") =
      some (some "pages/[1].tsx", dispute "pages/[1].tsx") := by decide +kernel
  obtain ⟨message, hunk, hfail⟩ := conflict?_eq_some hconflict
  obtain ⟨-, hpatch, htext⟩ := run_tells_failure (disputedWorkshop "pages/[1].tsx") ["patch", "left", "a.diff"]
  have hlaments : Laments (disputedWorkshop "pages/[1].tsx") (disputedReport "pages/[1].tsx")
      (disputeExcuse "pages/[1].tsx") := by
    have hreport := (hpatch none false "left" "a.diff" [] none false _ (read_disputed _) hfail).1 _ _ _ _ rfl
    rwa [Option.getD_some] at hreport
  obtain ⟨output, hwraps, hprinted⟩ := (htext (disputeExcuse "pages/[1].tsx")).2.2 (by decide +kernel)
    (by decide +kernel) (by decide +kernel)
  exact ⟨hlaments.status, output, hwraps, (hlaments.told _ hprinted).1.trans (List.nil_append _)⟩

theorem laments_disputed {path : String}
    (h : conflict? (disputedOutcome path) = some (some path, dispute path)) :
    Laments (disputedWorkshop path) (disputedReport path) (disputeExcuse path) := by
  obtain ⟨message, hunk, hfail⟩ := conflict?_eq_some h
  exact laments_of_attempt (read_disputed path) (patch_eq none false "left" "a.diff" [] none false)
    (spares_patchWork none false "left" "a.diff" [] none false) hfail

/-- **A conflict in a file with a tag in its name is told without the tag**, or not at all if the tag closes what is
not open. -/
theorem run_hides_tag :
    ((disputedReport "pages/[id].tsx").status = 1 ∧
      (disputedReport "pages/[id].tsx").session.output =
        encodeUtf8 "✗ Patch does not apply to pages/.tsx: error: patch failed: pages/.tsx:1\n\n" ∧
      ¬∃ output, Wraps (crossed (disputeExcuse "pages/[id].tsx").toList) output ∧
        (disputedReport "pages/[id].tsx").session.output = encodeUtf8 (String.ofList output ++ "\n")) ∧
    ((disputedReport "pages/[/id].tsx").status = 1 ∧ (disputedReport "pages/[/id].tsx").session.output = []) := by
  have hreport := @laments_disputed "pages/[id].tsx" (by decide +kernel)
  have hother := @laments_disputed "pages/[/id].tsx" (by decide +kernel)
  have htold : printed terminalWidth (lament (disputeExcuse "pages/[id].tsx")) =
      .ok "✗ Patch does not apply to pages/.tsx: error: patch failed: pages/.tsx:1\n\n" := by decide +kernel
  have huntold : printed terminalWidth (lament (disputeExcuse "pages/[/id].tsx")) =
      .error (.notOpen ['/', 'i', 'd'] 43) := by decide +kernel
  have houtput := (hreport.told _ htold).1.trans (List.nil_append _)
  refine ⟨⟨hreport.status, houtput, ?_⟩, hother.status, (hother.untold _ huntold).1⟩
  rintro ⟨output, hwraps, hwhole⟩
  exact not_wraps_of_solid (by decide +kernel) ⟨output, hwraps, encodeUtf8_injective (houtput.symm.trans hwhole)⟩

end Transplant.Command
