import Transplant.Proofs.Outcome
import Transplant.Proofs.Text.Decimal
import Transplant.Proofs.Text.Utf8
import Transplant.Tree.Delta

/-!
# Starting processes

What comes of one request: it is made once, and the way in which the start of its process ends decides the outcome.
Whether the messages of the process are echoed changes neither of them.

## Main statements

* `outcome_start`: the outcome is what the judge says of the status and the output, or the failure to get them
* `records_start`: one record for the request, and one more where messages are echoed
-/

namespace Transplant.Tree

variable {α : Type} {git : Starter} {r : Request} {verbose : Bool} {judge : Int → Bytes → Bytes → Except Failure α}
variable {status : Int} {stdout stderr : Bytes} {why : Disk.Fault} {path : Option String}

/-! ## Completion -/

/-- The messages of a tool that writes a text are that text. -/
theorem messagesOf_encodeUtf8 (text : String) : messagesOf (Text.encodeUtf8 text) = text := by
  have hdecode := Text.decodeLenient_encodeUtf8 text []
  rw [List.append_nil] at hdecode
  rw [messagesOf, hdecode, Text.decodeLenient, List.append_nil, String.ofList_toList]

theorem completion_missing (r : Request) (path : Option String) :
    completion r (.failed .missing path) =
      .error (.tool ("Cannot execute " ++ Text.quoted (r.command.headD "") ++ ": " ++
        Disk.Fault.missing.message (path.getD (r.command.headD ""))) "") := rfl

theorem completion_failed_of_ne (hwhy : why ≠ .missing) (r : Request) (path : Option String) :
    completion r (.failed why path) = .error (.disk why (path.getD (r.command.headD ""))) :=
  if_neg hwhy

/-! ## Activities -/

theorem requests_start (git : Starter) (r : Request) (verbose : Bool)
    (judge : Int → Bytes → Bytes → Except Failure α) : (start git r verbose judge).requests = [r] := by
  unfold start
  cases completion r (git r) <;> rfl

theorem outcome_start (git : Starter) (r : Request) (verbose : Bool)
    (judge : Int → Bytes → Bytes → Except Failure α) :
    (start git r verbose judge).outcome =
      match completion r (git r) with
      | .error why => .error why
      | .ok (status, stdout, stderr) => judge status stdout stderr := by
  unfold start
  cases completion r (git r) <;> rfl

theorem outcome_start_of_completed (hgit : git r = .completed status stdout stderr) :
    (start git r verbose judge).outcome = judge status stdout stderr := by
  rw [outcome_start, hgit]
  rfl

/-- Messages are echoed behind the record of the request, if at all. -/
theorem records_start (git : Starter) (r : Request) (verbose : Bool)
    (judge : Int → Bytes → Bytes → Except Failure α) :
    (start git r verbose judge).records =
      executing r ::
        match completion r (git r) with
        | .error _ => []
        | .ok (_, _, stderr) => echoed verbose stderr := by
  unfold start
  cases completion r (git r) <;> rfl

/-! ## Comparisons -/

section

variable {s : Settings.Diff} {cwd : Path} {left right : String}

theorem diff_eq_start (h : (Path.resolve cwd left).parent = (Path.resolve cwd right).parent) :
    diff s cwd git left right verbose =
      start git (compareRequest s (Path.resolve cwd left) (Path.resolve cwd right)) verbose judgeComparison :=
  if_pos h

end

/-! ## Replays -/

section

variable {s : Settings.Diff} {cwd : Path} {target : String} {contents : Bytes} {o : PatchOptions}

theorem patch_of_negative (hstrip : o.stripSlashes < 0) :
    patch s cwd git target contents o = refuse (.refused .negativeStrip) :=
  if_pos hstrip

theorem patch_of_empty (hstrip : 0 ≤ o.stripSlashes) : patch s cwd git target [] o = { outcome := .ok () } :=
  if_neg (by omega)

/-- Only the command line of a request can fail to be made. -/
theorem replayRequest_eq_ok {place : Path} (hr : replayRequest s place contents o = .ok r) :
    ∃ command, replayArguments s.gitBinary o = .ok command ∧
      r = ⟨command, place, some contents, s.timeout, place.parent⟩ := by
  obtain ⟨command, hcommand, hmade⟩ := ok_of_bind hr
  exact ⟨command, hcommand, (Except.ok.inj hmade).symm⟩

theorem replayRequest_eq_error {why : Numeral.Fault} (h : Numeral.write o.stripSlashes = .error why) (place : Path) :
    replayRequest s place contents o = .error why := by
  rw [replayRequest, replayArguments, h]
  rfl

theorem replayRequest_of_written {count : String} (h : Numeral.write o.stripSlashes = .ok count) (s : Settings.Diff)
    (place : Path) (contents : Bytes) :
    replayRequest s place contents o = .ok
      { command := [s.gitBinary, "apply", "-p" ++ count] ++ (if o.verbose then ["-v"] else []) ++
          o.excludedPaths.map ("--exclude=" ++ ·) ++ (if o.reverse then ["-R"] else []) ++ ["-"]
        directory := place
        input := some contents
        timeout := s.timeout
        ceiling := place.parent } := by
  rw [replayRequest, replayArguments, h]
  rfl

/-- The request of a replay with default options is made. -/
theorem replayRequest_default (s : Settings.Diff) (place : Path) (contents : Bytes) :
    ∃ r, replayRequest s place contents {} = .ok r := by
  refine ⟨_, replayRequest_of_written (Text.write_eq_ok ?_) s place contents⟩
  rw [Text.digits_of_lt (by decide)]
  decide

theorem patch_of_unmade {why : Numeral.Fault} (hstrip : 0 ≤ o.stripSlashes) (hcontents : contents ≠ [])
    (h : replayRequest s (Path.resolve cwd target) contents o = .error why) :
    patch s cwd git target contents o = refuse (.badNumeral why) := by
  rw [patch, if_neg (by omega), if_neg (by simpa using hcontents), h]

theorem patch_of_request (hstrip : 0 ≤ o.stripSlashes) (hcontents : contents ≠ [])
    (hr : replayRequest s (Path.resolve cwd target) contents o = .ok r) :
    patch s cwd git target contents o = start git r o.verbose judgeReplay := by
  rw [patch, if_neg (by omega), if_neg (by simpa using hcontents), hr]

/-- A replay asks for one process where it is neither refused nor empty and its arguments can be written. -/
theorem requests_patch :
    (patch s cwd git target contents o).requests =
      if 0 ≤ o.stripSlashes ∧ contents ≠ [] then (replayRequest s (Path.resolve cwd target) contents o).toOption.toList
      else [] := by
  rcases Int.lt_or_le o.stripSlashes 0 with hstrip | hstrip
  · rw [patch_of_negative hstrip, if_neg fun h => absurd h.1 (Int.not_le.2 hstrip), refuse]
  by_cases hcontents : contents = []
  · rw [hcontents, patch_of_empty hstrip, if_neg fun h => h.2 rfl]
  rw [if_pos ⟨hstrip, hcontents⟩]
  cases hr : replayRequest s (Path.resolve cwd target) contents o with
  | error why => rw [patch_of_unmade hstrip hcontents hr, refuse]; rfl
  | ok r => rw [patch_of_request hstrip hcontents hr, requests_start]; rfl

theorem mem_requests_patch :
    r ∈ (patch s cwd git target contents o).requests ↔
      (0 ≤ o.stripSlashes ∧ contents ≠ []) ∧ replayRequest s (Path.resolve cwd target) contents o = .ok r := by
  rw [requests_patch]
  split
  · rename_i hstarts
    rw [and_iff_right hstarts]
    cases replayRequest s (Path.resolve cwd target) contents o <;> simp [Except.toOption, eq_comm]
  · rename_i hstays
    exact iff_of_false List.not_mem_nil fun h => hstays h.1

end

end Transplant.Tree
