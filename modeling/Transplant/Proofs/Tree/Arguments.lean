import Transplant.Proofs.Text.Decimal
import Transplant.Proofs.Tree.Conflict
import Transplant.Proofs.Tree.Start

/-!
# Arguments of a replay

The command line of a replay is a list of arguments of five forms, and the text of an argument alone says which of
them it is (`Argument.read?_text`). So no pattern, whatever it holds, is taken for an option, for another pattern or for
the mark of the standard input, and the command line gives back the options from which it was made
(`ofCommand_replayArguments`).

Main statement: `patch_command_decodable`, which also says when a replay starts a process and what it is given.
-/

namespace Transplant.Tree

/-! ## One argument -/

/-- What one argument of a replay says. -/
inductive Argument where
  | strip (count : Nat)
  | messages
  | exclude (pattern : String)
  | reverse
  | input
deriving DecidableEq, Repr

namespace Argument

/-- The text of an argument. -/
def text : Argument → String
  | .strip count => "-p" ++ Text.decimal count
  | .messages => "-v"
  | .exclude pattern => "--exclude=" ++ pattern
  | .reverse => "-R"
  | .input => "-"

/-- The argument that a text is, told by its first letters. -/
def read? (text : String) : Option Argument :=
  match text.toList with
  | ['-'] => some .input
  | ['-', 'v'] => some .messages
  | ['-', 'R'] => some .reverse
  | '-' :: 'p' :: digits => (Text.valueOf? digits).map .strip
  | cs => (Conflict.afterWords "--exclude=" cs).map fun pattern => .exclude (String.ofList pattern)

/-- **An argument is told by its text alone.** -/
theorem read?_text (a : Argument) : read? a.text = some a := by
  cases a with
  | strip count =>
    have htext : ("-p" ++ Text.decimal count).toList = '-' :: 'p' :: Text.digits count := by
      rw [String.toList_append, Text.decimal, String.toList_ofList, String.toList_ofList]
      rfl
    have hvalue := Text.valueOf?_digits count
    rw [text, read?, htext]
    change (Text.valueOf? (Text.digits count)).map Argument.strip = _
    rw [hvalue, Option.map_some]
  | exclude pattern =>
    have htext : ("--exclude=" ++ pattern).toList = "--exclude=".toList ++ pattern.toList := String.toList_append
    have hpattern := Conflict.afterWords_eq_some_iff.2 htext
    have hmarks : "--exclude=".toList = '-' :: '-' :: "exclude=".toList := by decide
    rw [text, read?]
    rw [htext, hmarks, List.cons_append, List.cons_append] at hpattern ⊢
    change (Conflict.afterWords "--exclude=" _).map _ = _
    rw [hpattern, Option.map_some, String.ofList_toList]
  | messages | reverse | input => rfl

/-- The number of leading components that an argument gives. -/
def strip? : Argument → Option Nat
  | .strip count => some count
  | _ => none

/-- The pattern that an argument gives. -/
def pattern? : Argument → Option String
  | .exclude pattern => some pattern
  | _ => none

end Argument

/-! ## All arguments -/

namespace PatchOptions

/-- What some options say, argument by argument. -/
def arguments (o : PatchOptions) : List Argument :=
  [.strip o.stripSlashes.natAbs] ++ (if o.verbose then [.messages] else []) ++
    o.excludedPaths.map .exclude ++ (if o.reverse then [.reverse] else []) ++ [.input]

/-- The options that some arguments give. -/
def ofArguments (arguments : List Argument) : PatchOptions :=
  { stripSlashes := (arguments.findSome? Argument.strip?).getD 0
    excludedPaths := arguments.filterMap Argument.pattern?
    verbose := arguments.contains .messages
    reverse := arguments.contains .reverse }

/-- The options that a command line gives behind the tool and its command. -/
def ofCommand (command : List String) : PatchOptions :=
  ofArguments ((command.drop 2).filterMap Argument.read?)

theorem filterMap_pattern?_map_exclude (patterns : List String) :
    (patterns.map Argument.exclude).filterMap Argument.pattern? = patterns := by
  rw [List.filterMap_map]
  exact List.filterMap_some

theorem ofArguments_arguments {o : PatchOptions} (hstrip : 0 ≤ o.stripSlashes) : ofArguments o.arguments = o := by
  obtain ⟨stripSlashes, excludedPaths, verbose, reverse⟩ := o
  have hcount : (stripSlashes.natAbs : Int) = stripSlashes := Int.natAbs_of_nonneg hstrip
  have hpatterns := filterMap_pattern?_map_exclude excludedPaths
  unfold ofArguments arguments
  rw [mk.injEq]
  refine ⟨hcount, ?_, ?_, ?_⟩
  · cases verbose <;> cases reverse <;> simp [List.filterMap_cons, Argument.pattern?, hpatterns]
  · cases verbose <;> cases reverse <;> simp
  · cases verbose <;> cases reverse <;> simp

end PatchOptions

theorem replayArguments_eq {o : PatchOptions} (hstrip : 0 ≤ o.stripSlashes)
    (hlength : (Text.digits o.stripSlashes.natAbs).length ≤ Numeral.maxDigits) (binary : String) :
    replayArguments binary o = .ok (binary :: "apply" :: o.arguments.map Argument.text) := by
  have hcount : Text.signed o.stripSlashes = Text.decimal o.stripSlashes.natAbs := if_neg (by omega)
  unfold replayArguments PatchOptions.arguments
  rw [Text.write_eq_ok hlength, hcount, bind_ok]
  cases o.verbose <;> cases o.reverse <;> simp [Argument.text, pure, Except.pure]

/-- **A command line gives back the options from which it was made.** -/
theorem ofCommand_arguments {o : PatchOptions} (hstrip : 0 ≤ o.stripSlashes) (binary : String) :
    PatchOptions.ofCommand (binary :: "apply" :: o.arguments.map Argument.text) = o := by
  have hread : Argument.read? ∘ Argument.text = some := funext Argument.read?_text
  rw [PatchOptions.ofCommand, List.drop_succ_cons, List.drop_succ_cons, List.drop_zero,
    List.filterMap_map, hread, List.filterMap_some, PatchOptions.ofArguments_arguments hstrip]

/-! ## Replays -/

section

variable {s : Settings.Diff} {cwd : Path} {git : Starter} {target : String} {contents : Bytes} {o : PatchOptions}
  {r : Request}

/-- A number of components with more than 4300 digits is told as a bad numeral, and nothing is started. -/
theorem patch_of_overlong (hstrip : 0 ≤ o.stripSlashes) (hcontents : contents ≠ [])
    (hlong : Numeral.maxDigits < (Text.digits o.stripSlashes.natAbs).length) :
    patch s cwd git target contents o = refuse (.badNumeral .tooLarge) :=
  patch_of_unmade hstrip hcontents (replayRequest_eq_error (Text.write_eq_error hlong) _)

/-- The request for some options whose number of components is written. -/
def PatchOptions.request (o : PatchOptions) (s : Settings.Diff) (place : Path) (contents : Bytes) : Request :=
  { command := s.gitBinary :: "apply" :: o.arguments.map Argument.text
    directory := place
    input := some contents
    timeout := s.timeout
    ceiling := place.parent }

theorem patch_of_short (hstrip : 0 ≤ o.stripSlashes) (hcontents : contents ≠ [])
    (hshort : (Text.digits o.stripSlashes.natAbs).length ≤ Numeral.maxDigits) :
    patch s cwd git target contents o =
      start git (o.request s (Path.resolve cwd target) contents) o.verbose judgeReplay := by
  refine patch_of_request hstrip hcontents ?_
  rw [replayRequest, replayArguments_eq hstrip hshort]
  rfl

theorem patch_default (hcontents : contents ≠ []) :
    patch s cwd git target contents {} =
      start git (PatchOptions.request {} s (Path.resolve cwd target) contents) false judgeReplay := by
  refine patch_of_short (by decide) hcontents ?_
  rw [Text.digits_of_lt (by decide)]
  decide

theorem requests_patch_ne_nil_iff :
    (patch s cwd git target contents o).requests ≠ [] ↔
      0 ≤ o.stripSlashes ∧ contents ≠ [] ∧ (Text.digits o.stripSlashes.natAbs).length ≤ Numeral.maxDigits := by
  rw [requests_patch]
  by_cases hstarts : 0 ≤ o.stripSlashes ∧ contents ≠ []
  · rw [if_pos hstarts, ← and_assoc, and_iff_right hstarts]
    rcases Nat.lt_or_ge Numeral.maxDigits (Text.digits o.stripSlashes.natAbs).length with hlong | hshort
    · rw [replayRequest_eq_error (Text.write_eq_error hlong)]
      exact iff_of_false (fun h => h rfl) (Nat.not_le.2 hlong)
    · rw [replayRequest, replayArguments_eq hstarts.1 hshort]
      exact iff_of_true (List.cons_ne_nil _ _) hshort
  · rw [if_neg hstarts]
    exact iff_of_false (fun h => h rfl) fun h => hstarts ⟨h.1, h.2.1⟩

/-- A process that a replay starts is the only one, and its number of components is not negative. -/
theorem request_of_patch (hr : r ∈ (patch s cwd git target contents o).requests) :
    (patch s cwd git target contents o).requests = [r] ∧ 0 ≤ o.stripSlashes ∧
      r = o.request s (Path.resolve cwd target) contents := by
  obtain ⟨hstrip, hcontents, hshort⟩ := requests_patch_ne_nil_iff.1 (List.ne_nil_of_mem hr)
  rw [patch_of_short hstrip hcontents hshort, requests_start, List.mem_singleton] at hr
  refine ⟨?_, hstrip, hr⟩
  rw [patch_of_short hstrip hcontents hshort, requests_start, hr]

end

/-- **What a replay asks for.** It starts a process if and only if the number of leading components is not negative and
has at most 4300 digits and the difference is not empty, and then one, which gets the difference on its standard input
and runs in the target. A negative number is refused, with an empty difference too, and a longer one where there is a
difference. The arguments are told apart each by its own text, and two replays with the same command line have the same
options. -/
theorem patch_command_decodable (s : Settings.Diff) (cwd : Path) (git : Starter) (target : String) (contents : Bytes)
    (o : PatchOptions) :
    let replayed := patch s cwd git target contents o
    let digits := Text.digits o.stripSlashes.natAbs
    (replayed.requests ≠ [] ↔ 0 ≤ o.stripSlashes ∧ contents ≠ [] ∧ digits.length ≤ 4300) ∧
    (o.stripSlashes < 0 → ∃ why, replayed.outcome = .error why ∧ why.kind = .value ∧
      why.message = "stripSlashes must be >= 0.") ∧
    (0 ≤ o.stripSlashes → contents ≠ [] → 4300 < digits.length →
      ∃ why, replayed.outcome = .error why ∧ why.kind = .value ∧
        why.message = "Exceeds the limit (4300 digits) for integer string conversion; " ++
          "use sys.set_int_max_str_digits() to increase the limit") ∧
    (∀ argument : Argument, Argument.read? argument.text = some argument) ∧
    ∀ r ∈ replayed.requests,
      replayed.requests = [r] ∧ r.input = some contents ∧ r.directory = Path.resolve cwd target ∧
      r.command = s.gitBinary :: "apply" :: o.arguments.map Argument.text ∧
      ∀ s' cwd' git' target' contents' o', ∀ r' ∈ (patch s' cwd' git' target' contents' o').requests,
        r'.command = r.command → o' = o := by
  intro replayed digits
  refine ⟨requests_patch_ne_nil_iff, fun hstrip => ?_, fun hstrip hcontents hlong => ?_, Argument.read?_text,
    fun r hr => ?_⟩
  · exact ⟨.refused .negativeStrip, congrArg Activity.outcome (patch_of_negative hstrip), rfl, rfl⟩
  · exact ⟨.badNumeral .tooLarge, congrArg Activity.outcome (patch_of_overlong hstrip hcontents hlong), rfl,
      by decide +kernel⟩
  · obtain ⟨hone, hstrip, rfl⟩ := request_of_patch hr
    refine ⟨hone, rfl, rfl, rfl, fun s' cwd' git' target' contents' o' r' hr' hcommand => ?_⟩
    obtain ⟨-, hstrip', rfl⟩ := request_of_patch hr'
    calc o' = PatchOptions.ofCommand (s'.gitBinary :: "apply" :: o'.arguments.map Argument.text) :=
          (ofCommand_arguments hstrip' _).symm
      _ = PatchOptions.ofCommand (s.gitBinary :: "apply" :: o.arguments.map Argument.text) :=
          congrArg PatchOptions.ofCommand hcommand
      _ = o := ofCommand_arguments hstrip _

/-- Patterns that look like options, like the mark of the standard input and like another pattern. -/
theorem patch_command_decodable_disguised :
    let patterns := ["", "-R", "-", "--exclude=x", "a b\n-v"]
    let o : PatchOptions := { stripSlashes := 2, excludedPaths := patterns, verbose := true }
    let replayed := patch {} ⟨false, []⟩ (fun _ => .timedOut) "t" [120] o
    replayed.requests ≠ [] ∧ ∀ r ∈ replayed.requests,
      r.command.drop 3 = ["-v", "--exclude=", "--exclude=-R", "--exclude=-", "--exclude=--exclude=x",
        "--exclude=a b\n-v", "-"] ∧
      ∀ o', ∀ r' ∈ (patch {} ⟨false, []⟩ (fun _ => .timedOut) "u" [121] o').requests,
        r'.command = r.command → o' = o := by
  intro patterns o replayed
  obtain ⟨hstarts, -, -, -, hasked⟩ := patch_command_decodable {} ⟨false, []⟩ (fun _ => .timedOut) "t" [120] o
  have hlength : (Text.digits o.stripSlashes.natAbs).length ≤ 4300 := by
    rw [Text.digits_of_lt (by decide)]
    decide
  refine ⟨hstarts.2 ⟨by decide, by decide, hlength⟩, fun r hr => ?_⟩
  obtain ⟨-, -, -, hcommand, hsame⟩ := hasked r hr
  refine ⟨?_, fun o' => hsame _ _ _ _ _ o'⟩
  rw [hcommand]
  rfl

/-- **The smallest number of components with too many digits** is neither negative nor is the difference empty, but
nothing is started. -/
theorem patch_starts_nothing_for_long_strip :
    let o : PatchOptions := { stripSlashes := 10 ^ 4300 }
    let replayed := patch {} ⟨false, []⟩ (fun _ => .completed 0 [] []) "t" [120] o
    0 ≤ o.stripSlashes ∧ [120] ≠ ([] : Bytes) ∧ replayed.requests = [] ∧
      replayed.outcome = .error (.badNumeral .tooLarge) := by
  intro o replayed
  have hstrip : 0 ≤ o.stripSlashes := Int.pow_nonneg (by decide)
  have hlong {k : Nat} (hk : 0 < k) : k < (Text.digits (10 ^ k : Int).natAbs).length := by
    rw [Int.natAbs_pow]
    exact Text.lt_length_digits_pow hk
  have hreplayed : replayed = refuse (.badNumeral .tooLarge) :=
    patch_of_overlong hstrip (by decide) (hlong (by decide))
  rw [hreplayed]
  exact ⟨hstrip, by decide, rfl, rfl⟩

end Transplant.Tree
