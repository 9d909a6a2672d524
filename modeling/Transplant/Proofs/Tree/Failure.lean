import Transplant.Proofs.Tree.Arguments
import Transplant.Proofs.Tree.Patch

/-!
# Failures of the tool

Which failures of a comparison or a replay are failures of the tool. Whoever handles those meets every way in which a
process can complete or run out of time, and a tool or directory that is missing. Four failures escape: the system's
refusal to start the process for another reason, a time limit that is too long for the system to wait, and a number that
is too long, be it the number of leading components, which is not written then, or a line number in the messages, which
is not read.

Main statements: `tool_failures_and_escapes`, and `replay_denied_escapes`, where the tool may not be executed.
-/

namespace Transplant.Tree

/-- Whether an operation returned or failed by a failure of the tool, and so of the migration. -/
def ToolFails {α : Type} (outcome : Except Failure α) : Prop :=
  ∀ why, outcome = .error why → why.kind.isA .tool = true ∧ why.kind.isA .migration = true

namespace Outcome

/-- Whether the system refused to start the process, and not because something is missing. -/
def Refused (outcome : Outcome) : Prop :=
  ∃ why path, outcome = .failed why path ∧ why ≠ .missing

/-- Whether the system gave up because the time limit is too long for it. -/
def Overflowed (outcome : Outcome) : Prop :=
  ∃ words, outcome = .overflowed words

/-- Whether the process failed with messages of which the first that locates a hunk has a line number of more digits
than a numeral may have. -/
def Overlong (outcome : Outcome) : Prop :=
  ∃ status stdout stderr, outcome = .completed status stdout stderr ∧ status ≠ 0 ∧
    ∃ path digits, Conflict.First Conflict.Located (Text.lines (messagesOf stderr).toList) (path, digits) ∧
      4300 < digits.length

end Outcome

/-- Whether an operation fails as the system does where that refuses to start the process or gives up. -/
def ToldAsItIs {α : Type} (binary : String) (asked : Outcome) (outcome : Except Failure α) : Prop :=
  (∀ why path, asked = .failed why path → why ≠ .missing → outcome = .error (.disk why (path.getD binary))) ∧
    ∀ words, asked = .overflowed words → outcome = .error (.raised .overflow words)

/-- Whether a failure is handled neither as one of the tool nor as one of the migration. -/
def Escapes (why : Failure) : Prop :=
  why.kind.isA .tool = false ∧ why.kind.isA .migration = false

variable {α : Type} {git : Starter} {r : Request} {verbose : Bool} {judge : Int → Bytes → Bytes → Except Failure α}
variable {status : Int} {stdout stderr : Bytes}

/-! ## Outcomes -/

theorem toolFails_ok (a : α) : ToolFails (.ok a : Except Failure α) := nofun

theorem toolFails_tool (message stderr : String) : ToolFails (.error (.tool message stderr) : Except Failure α) := by
  rintro _ ⟨⟩
  exact ⟨rfl, rfl⟩

theorem toolFails_conflict (message : String) (path : Option String) (line : Option Int) (stderr : String) :
    ToolFails (.error (.conflict message path line stderr) : Except Failure α) := by
  rintro _ ⟨⟩
  exact ⟨rfl, rfl⟩

theorem not_toolFails_of_escapes {why : Failure} (h : Escapes why) :
    ¬ ToolFails (.error why : Except Failure α) := by
  intro htool
  have htold := (htool _ rfl).1
  rw [h.1] at htold
  cases htold

/-- No fault of the system is one of the tool. -/
theorem escapes_disk (why : Disk.Fault) (path : String) : Escapes (.disk why path) := by
  cases why <;> exact ⟨rfl, rfl⟩

theorem escapes_overflow (words : String) : Escapes (.raised .overflow words) := ⟨rfl, rfl⟩

theorem escapes_badNumeral (why : Numeral.Fault) : Escapes (.badNumeral why) := ⟨rfl, rfl⟩

/-! ## Processes -/

theorem toldAsItIs_start (git : Starter) (r : Request) (verbose : Bool)
    (judge : Int → Bytes → Bytes → Except Failure α) :
    ToldAsItIs (r.command.headD "") (git r) (start git r verbose judge).outcome := by
  refine ⟨fun why path hgit hwhy => ?_, fun words hgit => ?_⟩
  · rw [outcome_start, hgit, completion_failed_of_ne hwhy]
  · rw [outcome_start, hgit]
    rfl

/-- The failure of an operation is one of the tool where the system did not refuse to start the process or give up and
the judgement on a completed process is no other failure. -/
theorem toolFails_start_iff :
    ToolFails (start git r verbose judge).outcome ↔
      ¬ (git r).Refused ∧ ¬ (git r).Overflowed ∧
        ∀ status stdout stderr, git r = .completed status stdout stderr → ToolFails (judge status stdout stderr) := by
  have htold := toldAsItIs_start git r verbose judge
  cases hgit : git r with
  | completed status stdout stderr =>
    rw [outcome_start_of_completed hgit]
    refine ⟨fun h => ⟨?_, ?_, ?_⟩, fun h => h.2.2 _ _ _ rfl⟩
    · rintro ⟨_, _, ⟨⟩, _⟩
    · rintro ⟨_, ⟨⟩⟩
    · rintro _ _ _ ⟨⟩
      exact h
  | failed why path =>
    by_cases hwhy : why = .missing
    · rw [outcome_start, hgit, hwhy, completion_missing]
      refine iff_of_true (toolFails_tool _ _) ⟨?_, ?_, nofun⟩
      · rintro ⟨_, _, ⟨⟩, hne⟩
        exact hne rfl
      · rintro ⟨_, ⟨⟩⟩
    · rw [htold.1 why path hgit hwhy]
      exact iff_of_false (not_toolFails_of_escapes (escapes_disk _ _)) fun h => h.1 ⟨why, path, rfl, hwhy⟩
  | timedOut =>
    rw [outcome_start, hgit]
    refine iff_of_true (toolFails_tool _ _) ⟨?_, ?_, nofun⟩
    · rintro ⟨_, _, ⟨⟩, _⟩
    · rintro ⟨_, ⟨⟩⟩
  | overflowed words =>
    rw [htold.2 words hgit]
    exact iff_of_false (not_toolFails_of_escapes (escapes_overflow _)) fun h => h.2.1 ⟨words, rfl⟩

/-! ## Judgements -/

theorem toolFails_judgeComparison (status : Int) (stdout stderr : Bytes) :
    ToolFails (judgeComparison status stdout stderr) := by
  unfold judgeComparison
  split
  · exact toolFails_tool _ _
  · exact toolFails_ok _

section

open Conflict

theorem toolFails_replayFailure_iff {messages : String} :
    ToolFails (.error (replayFailure status messages) : Except Failure α) ↔
      ¬ ∃ path digits, First Located (Text.lines messages.toList) (path, digits) ∧ 4300 < digits.length := by
  by_cases hlocated : ∃ line ∈ Text.lines messages.toList, ∃ place, Located line place
  · obtain ⟨⟨path, digits⟩, hfirst⟩ := exists_first (fun _ _ => located?_eq_some_iff) hlocated
    rcases Nat.lt_or_ge 4300 digits.length with hlong | hshort
    · rw [replayFailure_overlong hfirst (Text.ofDigits_eq_error hlong)]
      exact iff_of_false (not_toolFails_of_escapes (escapes_badNumeral _)) fun h => h ⟨path, digits, hfirst, hlong⟩
    · obtain ⟨n, -, hread⟩ := Text.ofDigits_eq_ok hfirst.digits_are hshort
      rw [replayFailure_located hfirst hread]
      refine iff_of_true (toolFails_conflict _ _ _ _) ?_
      rintro ⟨path', digits', hfirst', hlong⟩
      obtain ⟨rfl, rfl⟩ := Prod.mk.inj (First.unique (fun _ _ => located?_eq_some_iff) hfirst' hfirst)
      omega
  · have hnone : ∀ line ∈ Text.lines messages.toList, ∀ place, ¬ Located line place :=
      fun line hline place hplace => hlocated ⟨line, hline, place, hplace⟩
    refine iff_of_true ?_ ?_
    · by_cases hnamed : ∃ line ∈ Text.lines messages.toList, ∃ path, Named line path
      · obtain ⟨path, hfirst⟩ := exists_first (fun _ _ => named?_eq_some_iff) hnamed
        rw [replayFailure_named hnone hfirst]
        exact toolFails_conflict _ _ _ _
      · rw [replayFailure_none hnone fun line hline path hpath => hnamed ⟨line, hline, path, hpath⟩]
        exact toolFails_tool _ _
    · rintro ⟨path, digits, ⟨before, line, after, hlines, hplace, -⟩, -⟩
      exact hnone line (by simp [hlines]) _ hplace

end

theorem toolFails_judgeReplay_iff (hgit : git r = .completed status stdout stderr) :
    ToolFails (judgeReplay status stdout stderr) ↔ ¬ (git r).Overlong := by
  have hoverlong : (git r).Overlong ↔ status ≠ 0 ∧ ∃ path digits,
      Conflict.First Conflict.Located (Text.lines (messagesOf stderr).toList) (path, digits) ∧
        4300 < digits.length := by
    rw [hgit]
    constructor
    · rintro ⟨_, _, _, ⟨⟩, h⟩
      exact h
    · exact fun h => ⟨status, stdout, stderr, rfl, h⟩
  by_cases hstatus : status = 0
  · rw [hstatus, judgeReplay_zero]
    exact iff_of_true (toolFails_ok _) fun h => (hoverlong.1 h).1 hstatus
  · rw [judgeReplay_of_ne hstatus, toolFails_replayFailure_iff, hoverlong, and_iff_right hstatus]

/-! ## Operations -/

theorem toolFails_replay_iff :
    ToolFails (start git r verbose judgeReplay).outcome ↔
      ¬ (git r).Refused ∧ ¬ (git r).Overflowed ∧ ¬ (git r).Overlong := by
  rw [toolFails_start_iff]
  refine and_congr_right fun _ => and_congr_right fun _ =>
    ⟨fun h hoverlong => ?_, fun h status stdout stderr hgit => ?_⟩
  · obtain ⟨status, stdout, stderr, hgit, -⟩ := id hoverlong
    exact (toolFails_judgeReplay_iff hgit).1 (h status stdout stderr hgit) hoverlong
  · exact (toolFails_judgeReplay_iff hgit).2 h

/-- **Which failures are failures of the tool.** A comparison of two directories with one parent, and a replay with a
number of leading components that is not negative, start one process, but for a replay of an empty difference, which
returns, and a replay with a number of components of more than 4300 digits, which fails. Where they start one they
return or fail by a failure of the tool and of the migration, unless the system refuses to start the process for
another reason than that something is missing, gives up because of the time limit, or the first line that locates a
hunk has a line number of more than 4300 digits. What the system says is told as it is, and no failure that escapes is
one of the tool or of the migration. -/
theorem tool_failures_and_escapes (s : Settings.Diff) (cwd : Path) (git : Starter) :
    (∀ left right verbose,
      let compared := diff s cwd git left right verbose
      (Path.resolve cwd left).parent = (Path.resolve cwd right).parent →
        ∃ r, compared.requests = [r] ∧ ToldAsItIs s.gitBinary (git r) compared.outcome ∧
          (ToolFails compared.outcome ↔ ¬ (git r).Refused ∧ ¬ (git r).Overflowed)) ∧
    (∀ target contents o,
      let replayed := patch s cwd git target contents o
      let digits := Text.digits o.stripSlashes.natAbs
      0 ≤ o.stripSlashes →
        (contents = [] → replayed.outcome = .ok ()) ∧
        (contents ≠ [] → 4300 < digits.length →
          replayed.requests = [] ∧ replayed.outcome = .error (.badNumeral .tooLarge)) ∧
        (contents ≠ [] → digits.length ≤ 4300 →
          ∃ r, replayed.requests = [r] ∧ ToldAsItIs s.gitBinary (git r) replayed.outcome ∧
            (ToolFails replayed.outcome ↔
              ¬ (git r).Refused ∧ ¬ (git r).Overflowed ∧ ¬ (git r).Overlong))) ∧
    (∀ why path, Escapes (.disk why path)) ∧ (∀ words, Escapes (.raised .overflow words)) ∧
    ∀ why, Escapes (.badNumeral why) := by
  refine ⟨fun left right verbose => ?_, fun target contents o => ?_, escapes_disk, escapes_overflow,
    escapes_badNumeral⟩
  · intro compared hparent
    have hcompared : compared = _ := diff_eq_start hparent
    rw [hcompared]
    refine ⟨_, requests_start _ _ _ _, toldAsItIs_start _ _ _ _, toolFails_start_iff.trans ?_⟩
    exact and_congr_right fun _ => and_iff_left fun status stdout stderr _ =>
      toolFails_judgeComparison status stdout stderr
  · intro replayed digits hstrip
    refine ⟨fun hcontents => ?_, fun hcontents hlong => ?_, fun hcontents hshort => ?_⟩
    · exact congrArg Activity.outcome (hcontents ▸ patch_of_empty hstrip)
    · have hreplayed : replayed = _ := patch_of_overlong hstrip hcontents hlong
      rw [hreplayed]
      exact ⟨rfl, rfl⟩
    · have hreplayed : replayed = _ := patch_of_short hstrip hcontents hshort
      rw [hreplayed]
      exact ⟨_, requests_start _ _ _ _, toldAsItIs_start _ _ _ _, toolFails_replay_iff⟩

/-- A comparison that runs out of time, and a replay onto a file, where no process can run. -/
theorem tool_failures_and_escapes_on_file :
    let root : Path := ⟨false, []⟩
    let git : Starter := fun request => if request.input = none then .timedOut else .failed .notDirectory (some "/t")
    (Path.resolve root "a").parent = (Path.resolve root "b").parent ∧
      ToolFails (diff {} root git "a" "b" true).outcome ∧
      (0 : Int) ≤ ({} : PatchOptions).stripSlashes ∧ [120] ≠ ([] : Bytes) ∧
      (patch {} root git "t" [120] {}).outcome = .error (.disk .notDirectory "/t") := by
  intro root git
  obtain ⟨hcompared, hreplayed, -⟩ := tool_failures_and_escapes {} root git
  have hparent : (Path.resolve root "a").parent = (Path.resolve root "b").parent := by decide
  have hshort : (Text.digits ({} : PatchOptions).stripSlashes.natAbs).length ≤ 4300 := by
    rw [Text.digits_of_lt (by decide)]
    decide
  obtain ⟨r, hr, -, hfails⟩ := hcompared "a" "b" true hparent
  obtain ⟨r', hr', htold, -⟩ := (hreplayed "t" [120] {} (by decide)).2.2 (by decide) hshort
  have hwaits : git r = .timedOut := by
    rw [diff_eq_start hparent, requests_start] at hr
    rw [← List.singleton_inj.1 hr]
    rfl
  have hrefused : git r' = .failed .notDirectory (some "/t") := by
    rw [patch_default (by decide), requests_start] at hr'
    rw [← List.singleton_inj.1 hr']
    rfl
  refine ⟨hparent, hfails.2 ?_, by decide, by decide, htold.1 _ _ hrefused (by decide)⟩
  rw [hwaits]
  exact ⟨by rintro ⟨_, _, ⟨⟩, _⟩, by rintro ⟨_, ⟨⟩⟩⟩

/-- **A tool that may not be executed is told as a fault of the system**, which neither a handler of the tool's failures
nor one of those of the migration handles. -/
theorem replay_denied_escapes :
    let replayed := patch {} ⟨false, []⟩ (fun _ => .denied) "t" [120] {}
    replayed.outcome = .error (.disk .denied "git") ∧ (Failure.disk .denied "git").kind = .permission ∧
      ¬ ToolFails replayed.outcome := by
  intro replayed
  have hreplayed : replayed = _ := patch_default (by decide)
  have houtcome : replayed.outcome = .error (.disk .denied "git") := by
    rw [hreplayed]
    rfl
  exact ⟨houtcome, rfl, houtcome ▸ not_toolFails_of_escapes (escapes_disk .denied "git")⟩

end Transplant.Tree
