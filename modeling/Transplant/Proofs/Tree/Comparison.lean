import Transplant.Proofs.Text.Lines
import Transplant.Proofs.Tree.Siblings

/-!
# Comparisons

What a comparison of two directories with one parent asks of the tool, and what it makes of the answer.

The tool is told the directories by their names in their parent. A name is a single component of a path
(`Path.IsName`), so that it leads from the parent to the directory again (`Path.resolve_parent_name`), whatever it
looks like.

Main statement: `diff_end_to_end`.
-/

namespace Transplant.Tree

namespace Path

variable {p cwd : Path} {name : List Char}

/-! ## Names -/

/-- Whether a text is a single component of a path. -/
def IsName (name : List Char) : Prop :=
  name ≠ [] ∧ name ≠ ['.'] ∧ '/' ∉ name

instance (name : List Char) : Decidable (IsName name) :=
  inferInstanceAs (Decidable (_ ∧ _ ∧ _))

/-- Whether the names of a path are single components, as those of every path that is read from a text are. -/
def IsPlain (p : Path) : Prop :=
  ∀ name ∈ p.names, IsName name

instance (p : Path) : Decidable p.IsPlain :=
  inferInstanceAs (Decidable (∀ name ∈ p.names, _))

theorem isName_of_mem_components {cs : List Char} (h : name ∈ components cs) : IsName name := by
  obtain ⟨hpiece, hkept⟩ := List.mem_filter.1 h
  simp only [Bool.and_eq_true, Bool.not_eq_true', List.isEmpty_eq_false_iff, bne_iff_ne, ne_eq] at hkept
  exact ⟨hkept.1, hkept.2, Text.not_mem_of_mem_splitOn hpiece⟩

theorem components_of_isName (h : IsName name) : components name = [name] := by
  obtain ⟨hne, hdot, hslash⟩ := h
  rw [components, Text.splitOn_eq, List.splitOn_eq_singleton hslash]
  simp [hne, hdot]

theorem root?_of_isName (h : IsName name) : root? name = none := by
  obtain ⟨hne, -, hslash⟩ := h
  cases name with
  | nil => exact absurd rfl hne
  | cons c rest =>
    have hc : (c == '/') = false := by
      rw [beq_eq_false_iff_ne]
      rintro rfl
      exact hslash List.mem_cons_self
    rw [root?, List.takeWhile_cons_of_neg (by simp [hc])]
    rfl

/-- A name leads one step down from a path. -/
theorem resolve_of_isName (h : IsName name) (p : Path) : resolve p (String.ofList name) = p.child name := by
  unfold resolve
  rw [String.toList_ofList]
  dsimp only
  rw [root?_of_isName h, components_of_isName h]
  rfl

theorem isPlain_resolve (hcwd : cwd.IsPlain) (s : String) : (resolve cwd s).IsPlain := by
  intro name hname
  unfold resolve at hname
  dsimp only at hname
  split at hname
  · exact isName_of_mem_components hname
  · rcases List.mem_append.1 hname with hname | hname
    · exact hcwd name hname
    · exact isName_of_mem_components hname

/-- **The name of a path leads from its parent to it.** -/
theorem resolve_parent_name (hp : p.IsPlain) (hne : p.names ≠ []) : resolve p.parent p.name = p := by
  have hname : p.name = String.ofList (p.names.getLast hne) := by
    rw [name, List.getLast?_eq_some_getLast hne, Option.getD_some]
  rw [hname, resolve_of_isName (hp _ (List.getLast_mem hne)), child_parent hne]

end Path

/-! ## Judgement -/

section

variable {status : Int} {stdout stderr bytes : Bytes}

/-- Whether a comparison counts as done: without a difference, or with one and without messages. -/
abbrev Compared (status : Int) (stderr : Bytes) : Prop :=
  status = 0 ∨ status = 1 ∧ stderr = []

theorem judgeComparison_of_compared (h : Compared status stderr) :
    judgeComparison status stdout stderr = .ok stdout := by
  rcases h with rfl | ⟨rfl, rfl⟩ <;> rfl

theorem judgeComparison_of_not_compared (h : ¬ Compared status stderr) :
    judgeComparison status stdout stderr =
      .error (.tool ("Error executing 'git diff' (exit status " ++ Text.signed status ++ "): " ++ messagesOf stderr)
        (messagesOf stderr)) := by
  rw [judgeComparison, if_pos]
  by_cases hone : status = 1
  · have hstderr : stderr ≠ [] := fun hnil => h (.inr ⟨hone, hnil⟩)
    simp [hone, hstderr]
  · have hzero : status ≠ 0 := fun hzero => h (.inl hzero)
    simp [hone, hzero]

theorem judgeComparison_eq_ok_iff :
    judgeComparison status stdout stderr = .ok bytes ↔ bytes = stdout ∧ Compared status stderr := by
  by_cases h : Compared status stderr
  · rw [judgeComparison_of_compared h, Except.ok.injEq]
    exact ⟨fun hsame => ⟨hsame.symm, h⟩, fun hsame => hsame.1.symm⟩
  · rw [judgeComparison_of_not_compared h]
    exact ⟨nofun, fun hsame => absurd hsame.2 h⟩

end

/-! ## Activities -/

section

variable {s : Settings.Diff} {cwd : Path} {git : Starter} {left right : String}

/-- The command line of a comparison ends in the two names, right behind the mark that ends the options. -/
theorem comparison_eq : ∃ options : List String, "--" ∉ options ∧
    ∀ binary, comparison binary = binary :: options ++ ["--"] :=
  ⟨(comparison "").tail.dropLast, by decide, fun _ => rfl⟩

theorem compareRequest_swap {l r : Path} (h : l.parent = r.parent) :
    compareRequest s r l =
      { compareRequest s l r with command := comparison s.gitBinary ++ [r.name, l.name] } := by
  rw [compareRequest, compareRequest, h]

/-- Echoing adds one record for the operator at most, behind the others. -/
theorem records_start_verbose {α : Type} (git : Starter) (r : Request)
    (judge : Int → Bytes → Bytes → Except Failure α) :
    ∃ added, (start git r true judge).records = (start git r false judge).records ++ added ∧ added.length ≤ 1 ∧
      ∀ record ∈ added, record.level = .info := by
  rw [records_start, records_start]
  cases completion r (git r) with
  | error why => exact ⟨[], rfl, by decide, by simp⟩
  | ok completed =>
    obtain ⟨status, stdout, stderr⟩ := completed
    refine ⟨echoed true stderr, rfl, ?_, ?_⟩
    · unfold echoed
      split <;> simp
    · unfold echoed
      split <;> simp

end

/-- **A comparison of two directories with one parent, end to end.** One process is started. Its directory and each of
the last two arguments lead to the two directories again; these arguments follow `--`, and what stands in front of that
is the same for all directories. The difference is what the process wrote, if it found none, or found one and had no
messages; otherwise the comparison fails and carries the messages. Exchanging the directories exchanges the last two
arguments and nothing else, and to echo the messages is only to log one record more for the operator. -/
theorem diff_end_to_end :
    ∃ options : List String, "--" ∉ options ∧
    ∀ (s : Settings.Diff) (cwd : Path) (git : Starter) (left right : String), cwd.IsPlain →
      let l := Path.resolve cwd left
      let r := Path.resolve cwd right
      let compared := diff s cwd git left right
      l.parent = r.parent → l.names ≠ [] → r.names ≠ [] →
      ∃ request : Request,
        (∀ verbose, (compared verbose).requests = [request]) ∧
        Path.resolve request.directory l.name = l ∧ Path.resolve request.directory r.name = r ∧
        request.command = s.gitBinary :: options ++ ["--", l.name, r.name] ∧
        (∀ status stdout stderr, git request = .completed status stdout stderr → ∀ verbose,
          (∀ bytes, (compared verbose).outcome = .ok bytes ↔
            bytes = stdout ∧ (status = 0 ∨ status = 1 ∧ stderr = [])) ∧
          (¬ (status = 0 ∨ status = 1 ∧ stderr = []) →
            ∃ message, (compared verbose).outcome = .error (.tool message (messagesOf stderr)))) ∧
        (∀ verbose, (diff s cwd git right left verbose).requests =
          [{ request with command := s.gitBinary :: options ++ ["--", r.name, l.name] }]) ∧
        (compared true).outcome = (compared false).outcome ∧
        ∃ added, (compared true).records = (compared false).records ++ added ∧ added.length ≤ 1 ∧
          ∀ record ∈ added, record.level = .info := by
  obtain ⟨options, hoptions, hcomparison⟩ := comparison_eq
  refine ⟨options, hoptions, ?_⟩
  intro s cwd git left right hcwd l r compared hparent hl hr
  have hcompared (verbose : Bool) : compared verbose = start git (compareRequest s l r) verbose judgeComparison :=
    diff_eq_start hparent
  have hcommand (first second : String) : comparison s.gitBinary ++ [first, second] =
      s.gitBinary :: options ++ ["--", first, second] := by
    rw [hcomparison, List.append_assoc, List.singleton_append]
  refine ⟨compareRequest s l r, fun verbose => ?_, ?_, ?_, hcommand l.name r.name, ?_, fun verbose => ?_, ?_, ?_⟩
  · rw [hcompared, requests_start]
  · exact Path.resolve_parent_name (Path.isPlain_resolve hcwd left) hl
  · rw [compareRequest, hparent]
    exact Path.resolve_parent_name (Path.isPlain_resolve hcwd right) hr
  · intro status stdout stderr hgit verbose
    rw [hcompared, outcome_start_of_completed hgit]
    exact ⟨fun bytes => judgeComparison_eq_ok_iff, fun hnot => ⟨_, judgeComparison_of_not_compared hnot⟩⟩
  · rw [diff_eq_start hparent.symm, requests_start, compareRequest_swap hparent, hcommand]
  · rw [hcompared, hcompared, outcome_start, outcome_start]
  · rw [hcompared, hcompared]
    exact records_start_verbose git _ judgeComparison

/-- Two directories whose names look like options, spelled in different ways, and messages without a difference. -/
theorem diff_end_to_end_flag_like :
    let cwd : Path := ⟨false, ["work".toList]⟩
    let git : Starter := fun _ => .completed 0 [] [104, 105]
    let l := Path.resolve cwd "-R/"
    let r := Path.resolve cwd "/work/.//--output=.."
    cwd.IsPlain ∧ l.parent = r.parent ∧ l.names ≠ [] ∧ r.names ≠ [] ∧
      ∃ request : Request, (diff {} cwd git "-R/" "/work/.//--output=.." true).requests = [request] ∧
        Path.resolve request.directory "-R" = l ∧ Path.resolve request.directory "--output=.." = r ∧
        (diff {} cwd git "-R/" "/work/.//--output=.." true).outcome = .ok [] := by
  intro cwd git l r
  obtain ⟨options, -, hall⟩ := diff_end_to_end
  have hcwd : cwd.IsPlain := by decide
  have hparent : l.parent = r.parent := by decide
  have hl : l.names ≠ [] := by decide
  have hr : r.names ≠ [] := by decide
  obtain ⟨request, hrequests, hleft, hright, -, hjudged, -⟩ :=
    hall {} cwd git "-R/" "/work/.//--output=.." hcwd hparent hl hr
  exact ⟨hcwd, hparent, hl, hr, request, hrequests true, hleft, hright,
    ((hjudged 0 [] [104, 105] rfl true).1 []).2 ⟨rfl, .inl rfl⟩⟩

end Transplant.Tree
