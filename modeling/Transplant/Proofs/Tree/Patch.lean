import Transplant.Proofs.Text.Decimal
import Transplant.Proofs.Text.Lines
import Transplant.Proofs.Tree.Conflict
import Transplant.Proofs.Tree.Start

/-!
# Replaying a difference

When a replay is refused, what it asks of the process that it starts, and how the messages of that process make its
failure a conflict.

## Main statements

* `patch_refused_iff`: only a negative number of leading components is refused
* `patch_outcome_by_messages`: which failure the status and the messages of the process stand for
* `conflict_keeps_place`: a place that is written as a report is the place of the conflict
-/

namespace Transplant.Tree

variable {s : Settings.Diff} {cwd : Path} {git : Starter} {target : String} {contents : Bytes} {o : PatchOptions}

/-! ## Refusals -/

theorem replayFailure_ne_refused (status : Int) (messages : String) (why : Refusal) :
    replayFailure status messages ≠ .refused why := by
  unfold replayFailure
  dsimp only
  split
  · split <;> nofun
  · nofun
  · nofun

theorem completion_ne_refused {r : Request} {outcome : Outcome} {why : Refusal} :
    completion r outcome ≠ .error (.refused why) := by
  cases outcome with
  | completed status stdout stderr => nofun
  | failed fault path =>
    by_cases hfault : fault = .missing
    · rw [hfault, completion_missing]
      nofun
    · rw [completion_failed_of_ne hfault]
      nofun
  | timedOut | overflowed words => nofun

/-- A process that was started to replay a difference never leads to a refusal. -/
theorem outcome_start_ne_refused (r : Request) (verbose : Bool) (why : Refusal) :
    (start git r verbose judgeReplay).outcome ≠ .error (.refused why) := by
  rw [outcome_start]
  cases hcompletion : completion r (git r) with
  | error e =>
    rintro ⟨⟩
    exact completion_ne_refused hcompletion
  | ok completed =>
    obtain ⟨status, stdout, stderr⟩ := completed
    dsimp only
    unfold judgeReplay
    split
    · nofun
    · intro h
      exact replayFailure_ne_refused _ _ _ (Except.error.inj h)

/-- **Only a negative number of leading components is refused.** -/
theorem patch_refused_iff :
    (patch s cwd git target contents o).outcome = .error (.refused .negativeStrip) ↔ o.stripSlashes < 0 := by
  rcases Int.lt_or_le o.stripSlashes 0 with hstrip | hstrip
  · exact iff_of_true (congrArg Activity.outcome (patch_of_negative hstrip)) hstrip
  refine iff_of_false ?_ (Int.not_lt.2 hstrip)
  by_cases hcontents : contents = []
  · rw [hcontents, patch_of_empty hstrip]
    nofun
  · cases hr : replayRequest s (Path.resolve cwd target) contents o with
    | error why =>
      rw [patch_of_unmade hstrip hcontents hr]
      nofun
    | ok r =>
      rw [patch_of_request hstrip hcontents hr]
      exact outcome_start_ne_refused _ _ _

/-! ## The process -/

/-- Every process that a replay starts has the time limit of the settings. -/
theorem timeout_of_mem_patch {r : Request} (hr : r ∈ (patch s cwd git target contents o).requests) :
    r.timeout = s.timeout := by
  obtain ⟨command, -, rfl⟩ := replayRequest_eq_ok (mem_requests_patch.1 hr).2
  rfl

/-! ## Failed replays -/

/-- The status and the messages of a completed process decide how a replay ends. -/
theorem outcome_patch_of_completed {r : Request} {status : Int} {stdout stderr : Bytes} (hstrip : 0 ≤ o.stripSlashes)
    (hcontents : contents ≠ []) (hr : replayRequest s (Path.resolve cwd target) contents o = .ok r)
    (hgit : git r = .completed status stdout stderr) :
    (patch s cwd git target contents o).outcome = judgeReplay status stdout stderr := by
  rw [patch_of_request hstrip hcontents hr, outcome_start_of_completed hgit]

theorem judgeReplay_zero (stdout stderr : Bytes) : judgeReplay 0 stdout stderr = .ok () := rfl

theorem judgeReplay_of_ne {status : Int} (hstatus : status ≠ 0) (stdout stderr : Bytes) :
    judgeReplay status stdout stderr = .error (replayFailure status (messagesOf stderr)) := by
  rw [judgeReplay, if_neg (by simpa using hstatus)]

section Messages

open Conflict

variable {r : Request} {status : Int} {stdout stderr : Bytes} {messages : String} {path digits : List Char}

theorem replayFailure_located {n : Nat} (h : First Located (Text.lines messages.toList) (path, digits))
    (hn : Numeral.ofDigits digits = .ok n) :
    replayFailure status messages =
      .conflict ("Error executing 'patch': " ++ Text.trim messages) (some (String.ofList path)) (some n) messages := by
  unfold replayFailure
  dsimp only
  rw [find?_of_first_located h]
  dsimp only
  rw [hn]

theorem replayFailure_overlong {why : Numeral.Fault}
    (h : First Located (Text.lines messages.toList) (path, digits)) (hwhy : Numeral.ofDigits digits = .error why) :
    replayFailure status messages = .badNumeral why := by
  unfold replayFailure
  dsimp only
  rw [find?_of_first_located h]
  dsimp only
  rw [hwhy]

theorem replayFailure_named (hnone : ∀ line ∈ Text.lines messages.toList, ∀ place, ¬ Located line place)
    (h : First Named (Text.lines messages.toList) path) :
    replayFailure status messages =
      .conflict ("Error executing 'patch': " ++ Text.trim messages) (some (String.ofList path)) none messages := by
  unfold replayFailure
  dsimp only
  rw [find?_of_first_named hnone h]

theorem replayFailure_none (hnone : ∀ line ∈ Text.lines messages.toList, ∀ place, ¬ Located line place)
    (hnone' : ∀ line ∈ Text.lines messages.toList, ∀ path, ¬ Named line path) :
    replayFailure status messages =
      .tool ("Error executing 'patch' (exit status " ++ Text.signed status ++ "): " ++ Text.trim messages)
        messages := by
  unfold replayFailure
  dsimp only
  rw [find?_of_none hnone hnone']

/-- What a replay makes of the status and the messages of its process. Status 0 counts as success whatever the
messages. Else the first line that locates a hunk makes the failure a conflict with the path and the line number that it
gives, the path as long as can be; without one, the first line that names a file makes it a conflict without a line
number; and without one of those either the failure is no conflict. A line number that is too long for a numeral is not
read, and neither is any other line then. -/
theorem patch_outcome_by_messages (hstrip : 0 ≤ o.stripSlashes) (hcontents : contents ≠ [])
    (hr : replayRequest s (Path.resolve cwd target) contents o = .ok r)
    (hgit : git r = .completed status stdout stderr) :
    let outcome := (patch s cwd git target contents o).outcome
    let text := messagesOf stderr
    let lines := Text.lines text.toList
    let conflict := fun (path : List Char) (line : Option Int) =>
      Failure.conflict ("Error executing 'patch': " ++ Text.trim text) (some (String.ofList path)) line text
    (∀ written, stderr = Text.encodeUtf8 written → text = written) ∧ Text.IsLines text.toList lines ∧
    (status = 0 → outcome = .ok ()) ∧
    (status ≠ 0 → (∃ line ∈ lines, ∃ place, Located line place) →
      ∃ path digits, First Located lines (path, digits) ∧
        (∀ path' digits', First Located lines (path', digits') → path'.length ≤ path.length) ∧
        (digits.length ≤ 4300 →
          ∃ n : Nat, Text.valueOf? digits = some n ∧ outcome = .error (conflict path (some n))) ∧
        (4300 < digits.length → outcome = .error (.badNumeral (.tooLong digits.length)))) ∧
    (status ≠ 0 → (∀ line ∈ lines, ∀ place, ¬ Located line place) →
      ((∃ line ∈ lines, ∃ path, Named line path) →
        ∃ path, First Named lines path ∧ outcome = .error (conflict path none)) ∧
      ((∀ line ∈ lines, ∀ path, ¬ Named line path) →
        outcome = .error (.tool
          ("Error executing 'patch' (exit status " ++ Text.signed status ++ "): " ++ Text.trim text) text))) := by
  intro outcome text lines conflict
  have houtcome : outcome = judgeReplay status stdout stderr := outcome_patch_of_completed hstrip hcontents hr hgit
  refine ⟨fun written hwritten => ?_, Text.isLines_iff.2 rfl, fun hstatus => ?_, fun hstatus hlocated => ?_,
    fun hstatus hnone => ⟨?_, ?_⟩⟩
  · rw [← messagesOf_encodeUtf8 written, ← hwritten]
  · rw [houtcome, hstatus, judgeReplay_zero]
  · obtain ⟨⟨path, digits⟩, hfirst⟩ := exists_first (fun _ _ => located?_eq_some_iff) hlocated
    refine ⟨path, digits, hfirst, fun path' digits' hfirst' => ?_, fun hlength => ?_, fun hlength => ?_⟩
    · have hsame := First.unique (fun _ _ => located?_eq_some_iff) hfirst' hfirst
      rw [(Prod.mk.inj hsame).1]
    · obtain ⟨n, hvalue, hread⟩ := Text.ofDigits_eq_ok hfirst.digits_are hlength
      exact ⟨n, hvalue, by rw [houtcome, judgeReplay_of_ne hstatus, replayFailure_located hfirst hread]⟩
    · rw [houtcome, judgeReplay_of_ne hstatus, replayFailure_overlong hfirst (Text.ofDigits_eq_error hlength)]
  · intro hnamed
    obtain ⟨path, hfirst⟩ := exists_first (fun _ _ => named?_eq_some_iff) hnamed
    exact ⟨path, hfirst, by rw [houtcome, judgeReplay_of_ne hstatus, replayFailure_named hnone hfirst]⟩
  · intro hnone'
    rw [houtcome, judgeReplay_of_ne hstatus, replayFailure_none hnone hnone']

/-- A file that does not apply is reported in front of a hunk that failed, in a file with a colon in its name. -/
theorem patch_outcome_hunk_behind_file :
    let text := "error: a: patch does not apply\nerror: patch failed: b:2:7\r\nerror: patch failed: b:2:7"
    let git : Starter := fun _ => .completed 1 [] (Text.encodeUtf8 text)
    (0 : Int) ≤ ({} : PatchOptions).stripSlashes ∧ [120] ≠ ([] : Bytes) ∧
      (patch {} ⟨false, []⟩ git "t" [120] {}).outcome =
        .error (.conflict ("Error executing 'patch': " ++ Text.trim text) (some "b:2") (some 7) text) := by
  intro text git
  refine ⟨by decide, by decide, ?_⟩
  have hfound : (Text.lines text.toList).findSome? located? = some ("b:2".toList, ['7']) := by decide
  have hfirst := (findSome?_eq_some_iff_first fun _ _ => located?_eq_some_iff).1 hfound
  obtain ⟨r, hr⟩ := replayRequest_default {} (Path.resolve ⟨false, []⟩ "t") [120]
  have hall := @patch_outcome_by_messages {} ⟨false, []⟩ git "t" [120] {} r 1 [] _ (by decide) (by decide) hr rfl
  rw [messagesOf_encodeUtf8] at hall
  have ⟨before, line, after, hlines, hlocated, _⟩ := hfirst
  obtain ⟨path, digits, hfirst', -, hconflict, -⟩ := hall.2.2.2.1 (by decide) ⟨line, by simp [hlines], _, hlocated⟩
  obtain ⟨rfl, rfl⟩ := Prod.mk.inj (First.unique (fun _ _ => located?_eq_some_iff) hfirst' hfirst)
  obtain ⟨n, hn, houtcome⟩ := hconflict (by decide)
  obtain rfl : 7 = n := Option.some.inj hn
  dsimp only at houtcome
  rwa [String.ofList_toList] at houtcome

/-- **A line number with too many digits is told as a bad numeral**, although no line is a report with a line number of
at most 4300 digits and none names a file: the failure is neither a conflict nor one of the tool. -/
theorem patch_overlong_number_no_tool_failure :
    let digits := List.replicate 4301 '1'
    let text := "error: patch failed: " ++ "a" ++ ":" ++ String.ofList digits
    let git : Starter := fun _ => .completed 1 [] (Text.encodeUtf8 text)
    let lines := Text.lines (messagesOf (Text.encodeUtf8 text)).toList
    (∀ line ∈ lines, ∀ place, Located line place → 4300 < place.2.length) ∧
    (∀ line ∈ lines, ∀ path, ¬ Named line path) ∧
    (patch {} ⟨false, []⟩ git "t" [120] {}).outcome = .error (.badNumeral (.tooLong 4301)) ∧
    (Failure.badNumeral (.tooLong 4301)).kind.isA .tool = false := by
  intro digits text git lines
  have hlength : digits.length = 4301 := List.length_replicate
  have hdigits : ∀ d ∈ digits, Text.isDigit d = true := by
    intro d hd
    rw [(List.mem_replicate.1 hd).2]
    decide
  clear_value digits
  have hne : digits ≠ [] := by
    rintro rfl
    cases hlength
  have hlocated : Located text.toList ("a".toList, digits) := located_report (by decide) hne hdigits
  have hunbroken : '\n' ∉ text.toList := unbroken_report (by decide) hdigits
  have hlines : lines = [text.toList] := by
    rw [← Text.lines_of_not_mem hunbroken, ← messagesOf_encodeUtf8 text]
  refine ⟨?_, ?_, ?_, rfl⟩
  · rw [hlines]
    intro line hline place hplace
    rw [List.mem_singleton.1 hline] at hplace
    rw [hplace.unique hlocated, hlength]
    decide
  · rw [hlines]
    intro line hline path
    rw [List.mem_singleton.1 hline]
    exact hlocated.not_named
  · have hlong : Numeral.ofDigits digits = .error (.tooLong 4301) := by
      rw [Text.ofDigits_eq_error (by rw [hlength]; decide), hlength]
    have hfirst : First Located lines ("a".toList, digits) := ⟨[], text.toList, [], hlines, hlocated, by simp⟩
    obtain ⟨r, hr⟩ := replayRequest_default {} (Path.resolve ⟨false, []⟩ "t") [120]
    rw [outcome_patch_of_completed (by decide) (by decide) hr rfl, judgeReplay_of_ne (by decide),
      replayFailure_overlong hfirst hlong]

/-! ## Places in messages -/

/-- A line between line feeds is a line of the messages, whatever the bytes around it. -/
theorem lines_around {before after : Bytes} (line : String) (hbefore : before = [] ∨ before.getLast? = some 10)
    (hafter : after = [] ∨ after.head? = some 10) (hline : '\n' ∉ line.toList) :
    ∃ earlier later, Text.lines (messagesOf (before ++ Text.encodeUtf8 line ++ after)).toList =
        earlier ++ line.toList :: later ∧ ∀ l ∈ earlier, l ∈ Text.lines (messagesOf before).toList := by
  simp only [messagesOf, String.toList_ofList]
  have hrest : ∃ later, Text.lines (Text.decodeLenient (Text.encodeUtf8 line ++ after)) = line.toList :: later := by
    rw [Text.decodeLenient_encodeUtf8]
    rcases hafter with rfl | hafter
    · rw [Text.decodeLenient, List.append_nil, Text.lines_of_not_mem hline]
      exact ⟨[], rfl⟩
    · obtain ⟨more, rfl⟩ := List.head?_eq_some_iff.1 hafter
      have hfeed := Text.decodeLenient_append_newline [] more
      rw [List.nil_append, Text.decodeLenient, List.nil_append] at hfeed
      rw [hfeed, Text.lines_append_cons, Text.lines_of_not_mem hline]
      exact ⟨_, rfl⟩
  obtain ⟨later, hlater⟩ := hrest
  rcases hbefore with rfl | hbefore
  · exact ⟨[], later, by rw [List.nil_append, hlater, List.nil_append], by simp⟩
  · obtain ⟨front, rfl⟩ := List.getLast?_eq_some_iff.1 hbefore
    refine ⟨Text.lines (Text.decodeLenient front), later, ?_, fun l hl => ?_⟩
    · rw [List.append_assoc, List.append_assoc, List.singleton_append, Text.decodeLenient_append_newline,
        Text.lines_append_cons, hlater]
    · rw [Text.decodeLenient_append_newline, Text.lines_append_cons]
      exact List.mem_append_left _ hl

/-- **The place that a tool reports is the place of the conflict**, whatever the path holds and whatever the tool writes
around the report, if no earlier line reports a place. -/
theorem conflict_keeps_place (hstrip : 0 ≤ o.stripSlashes) (hcontents : contents ≠ []) (hstatus : status ≠ 0)
    {path : String} {n : Nat} {before after : Bytes} (hpath : path ≠ "") (hunbroken : '\n' ∉ path.toList)
    (hlength : (Text.decimal n).length ≤ 4300) (hbefore : before = [] ∨ before.getLast? = some 10)
    (hearlier : ∀ line ∈ Text.lines (messagesOf before).toList, ∀ place, ¬ Located line place)
    (hafter : after = [] ∨ after.head? = some 10)
    (hstderr : stderr =
      before ++ Text.encodeUtf8 ("error: patch failed: " ++ path ++ ":" ++ Text.decimal n) ++ after)
    (hr : replayRequest s (Path.resolve cwd target) contents o = .ok r)
    (hgit : git r = .completed status stdout stderr) :
    (patch s cwd git target contents o).outcome =
      .error (.conflict ("Error executing 'patch': " ++ Text.trim (messagesOf stderr)) (some path) (some n)
        (messagesOf stderr)) := by
  have hdigits : ∀ d ∈ Text.digits n, Text.isDigit d = true := fun d hd => Text.isDigit_of_mem_digits hd
  obtain ⟨earlier, later, hlines, hsubset⟩ := lines_around _ hbefore hafter (unbroken_report hunbroken hdigits)
  have hfirst : First Located (Text.lines (messagesOf stderr).toList) (path.toList, Text.digits n) :=
    ⟨earlier, _, later, hstderr ▸ hlines, located_report hpath (Text.digits_ne_nil n) hdigits, fun line hline =>
      hearlier line (hsubset line hline)⟩
  have hread : Numeral.ofDigits (Text.digits n) = .ok n := by
    have hmax : (Text.digits n).length ≤ Numeral.maxDigits := by
      rwa [Text.decimal, String.length_ofList] at hlength
    obtain ⟨m, hvalue, hread⟩ := Text.ofDigits_eq_ok hdigits hmax
    rw [Text.valueOf?_digits] at hvalue
    rw [hread, Option.some.inj hvalue]
  rw [outcome_patch_of_completed hstrip hcontents hr hgit, judgeReplay_of_ne hstatus,
    replayFailure_located hfirst hread, String.ofList_toList]

/-- A path that ends like a place itself, behind a warning and a file that does not apply, and in front of bytes that are
no text and of another report. -/
theorem conflict_keeps_place_like_path :
    let before := Text.encodeUtf8 "warning: 1\nerror: b: patch does not apply\n"
    let after : Bytes := [10, 0xff, 0xe2] ++ Text.encodeUtf8 "\nerror: patch failed: b:1\n"
    let stderr := before ++ Text.encodeUtf8 ("error: patch failed: " ++ "a: 3:12" ++ ":" ++ Text.decimal 7) ++ after
    let git : Starter := fun _ => .completed 1 [] stderr
    (0 : Int) ≤ ({} : PatchOptions).stripSlashes ∧ [120] ≠ ([] : Bytes) ∧ (1 : Int) ≠ 0 ∧ "a: 3:12" ≠ "" ∧
      '\n' ∉ "a: 3:12".toList ∧ (Text.decimal 7).length ≤ 4300 ∧ before.getLast? = some 10 ∧
      (∀ line ∈ Text.lines (messagesOf before).toList, ∀ place, ¬ Located line place) ∧ after.head? = some 10 ∧
      (patch {} ⟨false, []⟩ git "t" [120] {}).outcome =
        .error (.conflict ("Error executing 'patch': " ++ Text.trim (messagesOf stderr)) (some "a: 3:12") (some 7)
          (messagesOf stderr)) := by
  intro before after stderr git
  have hlast : before.getLast? = some 10 := by
    simp only [before, Text.encodeUtf8_eq]
    decide
  have hearlier : ∀ line ∈ Text.lines (messagesOf before).toList, ∀ place, ¬ Located line place := by
    rw [messagesOf_encodeUtf8]
    exact (findSome?_eq_none_iff_none fun _ _ => located?_eq_some_iff).1 (by decide)
  have hlength : (Text.decimal 7).length ≤ 4300 := by
    rw [Text.decimal, Text.digits_of_lt (by decide)]
    decide
  obtain ⟨r, hr⟩ := replayRequest_default {} (Path.resolve ⟨false, []⟩ "t") [120]
  refine ⟨by decide, by decide, by decide, by decide, by decide, hlength, hlast, hearlier, rfl, ?_⟩
  exact @conflict_keeps_place {} ⟨false, []⟩ git "t" [120] {} r 1 [] stderr (by decide) (by decide) (by decide)
    "a: 3:12" 7 before after (by decide) (by decide) hlength (.inr hlast) hearlier (.inr rfl) rfl hr rfl

end Messages

end Transplant.Tree
