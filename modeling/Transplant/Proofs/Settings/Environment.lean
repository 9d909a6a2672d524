import Transplant.Proofs.Data.Prune
import Transplant.Proofs.Schema.Gathered
import Transplant.Proofs.Settings.Normal
import Transplant.Proofs.Workflow.Engine
import Transplant.Settings.Environment

/-!
# Variables do not interfere

Each variable sets one field. An environment is refused at once if the strip count is no numeral, whatever else it
holds. Otherwise all variables are looked at: those that are refused are told in the order of the fields, and if
there are none, every field depends on its own variable alone.

Main statement: `ofEnvironment_separates`.
-/

namespace Transplant.Settings

open Schema

/-! ## Variables -/

/-- The variables that set a field, in the order in which the fields are declared. -/
inductive Variable where
  | mode
  | changeBaseline
  | defaultAuthor
  | gitBinary
  | excludedPaths
  | stripSlashes
  | verbose
  | level
  | file
deriving DecidableEq, Repr

namespace Variable

/-- All variables. -/
def all : List Variable :=
  [.mode, .changeBaseline, .defaultAuthor, .gitBinary, .excludedPaths, .stripSlashes, .verbose, .level, .file]

/-- The name of a variable. -/
def name : Variable → String
  | .mode => "MIGRATE_MODE"
  | .changeBaseline => "MIGRATE_CHANGE_BASELINE"
  | .defaultAuthor => "MIGRATE_DEFAULT_AUTHOR"
  | .gitBinary => "GIT_BINARY"
  | .excludedPaths => "DIFF_EXCLUDED_PATHS"
  | .stripSlashes => "DIFF_STRIP_SLASHES"
  | .verbose => "DIFF_VERBOSE"
  | .level => "LOG_LEVEL"
  | .file => "LOG_FILE"

/-- The field that a variable sets. -/
def field (s : Settings) : Variable → Data
  | .mode => .text s.workflow.mode.name
  | .changeBaseline => .ofText? s.workflow.changeBaseline
  | .defaultAuthor => .text s.authoring.defaultAuthor.text
  | .gitBinary => .text s.diff.gitBinary
  | .excludedPaths => .ofTexts s.diff.excludedPaths
  | .stripSlashes => .int s.diff.stripSlashes
  | .verbose => .bool s.diff.verbose
  | .level => .text s.logging.level.name
  | .file => .ofText? s.logging.file

/-- What a variable sets its field to, if it is not refused. -/
def value : Variable → Option String → Data
  | .mode, o => .text (Text.upper (o.getD "SQUASH"))
  | .changeBaseline, o => .ofText? (o.filter fun b => !Text.allBlank b)
  | .defaultAuthor, o =>
    .ofText? ((Author.parse? (o.getD "Tree Migrate <migrate@localhost>")).map Author.text)
  | .gitBinary, o => .text (o.getD "git")
  | .excludedPaths, o => .ofTexts (patternList (o.getD ""))
  | .stripSlashes, o => .int (((nonEmpty? o).bind fun s => (Numeral.parse s).toOption).getD 2)
  | .verbose, o => .bool (Text.asciiLower (o.getD "false") == "true")
  | .level, o => .text (Text.upper (o.getD "INFO"))
  | .file, o => .ofText? o

/-- The problem with the value of a variable, if there is one. -/
def problem? : Variable → String → Option Problem
  | .mode, s =>
    if Text.upper s ∈ Mode.all.map Mode.name then none
    else some ⟨[.field "workflow", .field "mode"], .refused .unknownMode, .text s⟩
  | .defaultAuthor, s =>
    if (Author.parse? s).isSome then none
    else some ⟨[.field "authoring", .field "default_author"], .refused (.malformedIdentity s), .text s⟩
  | .stripSlashes, s =>
    (Numeral.parse s).toOption.bind fun n =>
      if n < 0 then some ⟨[.field "diff", .field "strip_slashes"], .refused .negativeStrip, .int n⟩ else none
  | .level, s =>
    if Text.upper s ∈ Log.Level.configurable.map Log.Level.name then none
    else some ⟨[.field "logging", .field "level"], .refused .unknownLevel, .text s⟩
  | _, _ => none

/-- The problem that an environment has with a variable, if there is one. -/
def problemIn? (env : Environment) (v : Variable) : Option Problem :=
  (env.get? v.name).bind v.problem?

theorem value_none (v : Variable) : v.value none = v.field {} := by
  cases v with
  | mode => exact congrArg Data.text (by decide +kernel)
  | level => exact congrArg Data.text (by decide +kernel)
  | defaultAuthor =>
    have hdefault : Author.parse? "Tree Migrate <migrate@localhost>" = some ({} : Authoring).defaultAuthor := by
      decide +kernel
    rw [value, Option.getD_none, hdefault]
    rfl
  | verbose => exact congrArg Data.bool (by decide +kernel)
  | changeBaseline | gitBinary | excludedPaths | stripSlashes | file => rfl

theorem problemIn?_of_any {v : Variable} (hany : ∀ s, v.problem? s = none) (env : Environment) :
    v.problemIn? env = none := by
  rw [problemIn?]
  cases env.get? v.name with
  | none => rfl
  | some s => exact hany s

end Variable

/-- The problems with the variables of an environment, in the order of the fields. -/
def problemsIn (env : Environment) : List Problem :=
  Variable.all.filterMap (Variable.problemIn? env)

/-! ## Sections -/

/-- The level that can be chosen by a name, in any case. -/
def level? (s : String) : Option Log.Level :=
  Log.Level.configurable.find? fun l => l.name == Text.upper s

/-- The settings that an environment with some strip count describes, with defaults for what is refused. -/
def described (env : Environment) (strip : Option Int) : Settings where
  workflow :=
    { mode := ((env.get? "MIGRATE_MODE").bind Mode.ofAnyCase?).getD .squash
      changeBaseline := (env.get? "MIGRATE_CHANGE_BASELINE").filter fun b => !Text.allBlank b }
  authoring :=
    { defaultAuthor := ((env.get? "MIGRATE_DEFAULT_AUTHOR").bind Author.parse?).getD ({} : Authoring).defaultAuthor }
  diff :=
    { Diff.standard with
      gitBinary := (env.get? "GIT_BINARY").getD "git"
      excludedPaths := patternList ((env.get? "DIFF_EXCLUDED_PATHS").getD "")
      stripSlashes := strip.elim 2 Int.toNat
      verbose := Text.asciiLower ((env.get? "DIFF_VERBOSE").getD "false") == "true" }
  logging :=
    { level := ((env.get? "LOG_LEVEL").bind level?).getD .info
      file := env.get? "LOG_FILE" }

theorem isSome_ofAnyCase? {s : String} :
    (Mode.ofAnyCase? s).isSome ↔ Text.upper s ∈ Mode.all.map Mode.name := by
  simp [Mode.ofAnyCase?, Mode.ofName?, List.find?_isSome]

theorem isSome_level? {s : String} :
    (level? s).isSome ↔ Text.upper s ∈ Log.Level.configurable.map Log.Level.name := by
  simp [level?, List.find?_isSome]

/-- What a text for a field of a section is refused for, told from outside. -/
theorem under_refused {α : Type} {o : Option String} {read? : String → Option α} {why : String → Refusal}
    {outer name : String} (problem? : String → Option Problem)
    (hproblem : ∀ s, problem? s =
      if (read? s).isSome then none else some ⟨[.field outer, .field name], .refused (why s), .text s⟩) :
    (o.bind fun s =>
        if (read? s).isSome then none else some ⟨[.field name], .refused (why s), .text s⟩ :
          Option Problem).toList.map (·.under (.field outer)) =
      (o.bind problem?).toList := by
  cases o with
  | none => rfl
  | some s =>
    rw [Option.bind_some, Option.bind_some, hproblem]
    by_cases h : (read? s).isSome <;> simp [h, Problem.under]

section

variable (env : Environment) (strip : Option Int)

/-- The fields that an environment supplies for the workflow section. -/
def workflowFields : List (String × Data) :=
  [ ("mode", .ofText? (env.get? "MIGRATE_MODE"))
  , ("change_baseline", .ofText? (env.get? "MIGRATE_CHANGE_BASELINE")) ]

/-- The field that an environment supplies for the authoring section. -/
def authoringFields : List (String × Data) :=
  [("default_author", .ofText? (env.get? "MIGRATE_DEFAULT_AUTHOR"))]

/-- The fields that an environment with some strip count supplies for the diff section. -/
def diffFields : List (String × Data) :=
  [ ("git_binary", .ofText? (env.get? "GIT_BINARY"))
  , ("strip_slashes", strip.elim .null .int)
  , ("excluded_paths",
      (nonEmpty? (env.get? "DIFF_EXCLUDED_PATHS")).elim .null fun s => .ofTexts (patternList s))
  , ("verbose", .bool (Text.asciiLower ((env.get? "DIFF_VERBOSE").getD "false") == "true")) ]

/-- The fields that an environment supplies for the logging section. -/
def loggingFields : List (String × Data) :=
  [("level", .text ((env.get? "LOG_LEVEL").getD "INFO")), ("file", .ofText? (env.get? "LOG_FILE"))]

theorem prune_environmentData :
    (environmentData env strip).prune = .ofFields
      [ ("workflow", (Data.ofFields (workflowFields env)).prune)
      , ("authoring", (Data.ofFields (authoringFields env)).prune)
      , ("diff", (Data.ofFields (diffFields env strip)).prune)
      , ("logging", (Data.ofFields (loggingFields env)).prune) ] := rfl

theorem gathers_workflow :
    Checked.Gathers (Variable.mode.problemIn? env).toList (described env strip).workflow
      (Checked.under (.field "workflow") (Workflow.check (Data.ofFields (workflowFields env)).prune)) := by
  have hlookup := Data.lookup_pruneEntries (workflowFields env) (by simp [workflowFields])
  have hmode := gathers_text .squash checkMode ((hlookup "mode").trans (Data.kept?_ofText? _))
    fun s => (rfl : _ = Checked.orRefuse (.text s) .unknownMode (Mode.ofAnyCase? s))
  have hbaseline := gathers_plain none checkBaseline ((hlookup "change_baseline").trans (Data.kept?_ofText? _))
    fun s => rfl
  have hmessage := gathers_absent ({} : Workflow).squashMessage readText (hlookup "squash_message")
  refine ((hmode.map3 hbaseline hmessage Workflow.mk).under (.field "workflow")).congr ?_ ?_
  · rw [List.append_nil, List.append_nil]
    exact under_refused _ fun s => by simp [Variable.problem?, isSome_ofAnyCase?]
  · rw [described]
    cases env.get? "MIGRATE_CHANGE_BASELINE" <;> rfl

theorem gathers_authoring :
    Checked.Gathers (Variable.defaultAuthor.problemIn? env).toList (described env strip).authoring
      (Checked.under (.field "authoring") (Authoring.check (Data.ofFields (authoringFields env)).prune)) := by
  have hlookup := Data.lookup_pruneEntries (authoringFields env) (by simp [authoringFields])
  have hauthor := gathers_text ({} : Authoring).defaultAuthor checkIdentity
    ((hlookup "default_author").trans (Data.kept?_ofText? _))
    fun s => (rfl : _ = Checked.orRefuse (.text s) (.malformedIdentity s) (Author.parse? s))
  refine ((hauthor.map Authoring.mk).under (.field "authoring")).congr ?_ rfl
  exact under_refused _ fun s => rfl

theorem gathers_logging :
    Checked.Gathers (Variable.level.problemIn? env).toList (described env strip).logging
      (Checked.under (.field "logging") (Logging.check (Data.ofFields (loggingFields env)).prune)) := by
  have hlookup := Data.lookup_pruneEntries (loggingFields env) (by simp [loggingFields])
  have hlevel := gathers_text (o := some ((env.get? "LOG_LEVEL").getD "INFO")) .info checkLevel (hlookup "level")
    fun s => (rfl : _ = Checked.orRefuse (.text s) .unknownLevel (level? s))
  have hfile := gathers_plain none readText? ((hlookup "file").trans (Data.kept?_ofText? _)) fun s => rfl
  have hformat := gathers_absent ({} : Logging).format readText (hlookup "format")
  refine ((hlevel.map3 hfile hformat Logging.mk).under (.field "logging")).congr ?_ ?_
  · rw [List.append_nil, List.append_nil]
    refine (under_refused Variable.level.problem? fun s => by simp [Variable.problem?, isSome_level?]).trans ?_
    rw [Variable.problemIn?, Variable.name]
    cases env.get? "LOG_LEVEL" with
    | none =>
      have hinfo : Text.upper "INFO" ∈ Log.Level.configurable.map Log.Level.name := by decide +kernel
      simp [Variable.problem?, hinfo]
    | some s => rfl
  · rw [described]
    cases env.get? "LOG_LEVEL" <;> cases env.get? "LOG_FILE" <;> rfl

/-- The problem with a strip count, where it stands. -/
def stripProblem? (n : Int) : Option Problem :=
  if n < 0 then some ⟨[], .refused .negativeStrip, .int n⟩ else none

theorem gathers_checkStrip (n : Int) : (checkStrip (.int n)).Gathers (stripProblem? n).toList n.toNat := by
  have hread : checkStrip (.int n) =
    if n < 0 then Checked.fail (.refused .negativeStrip) (.int n) else .ok n.toNat := rfl
  rw [hread, stripProblem?]
  split <;> rfl

theorem environmentStrip_eq_ok {env : Environment} {strip : Option Int} (h : environmentStrip env = .ok strip) :
    strip = (nonEmpty? (env.get? "DIFF_STRIP_SLASHES")).bind fun s => (Numeral.parse s).toOption := by
  unfold environmentStrip at h
  cases hset : nonEmpty? (env.get? "DIFF_STRIP_SLASHES") with
  | none =>
    rw [hset] at h
    cases h
    rfl
  | some s =>
    rw [hset] at h
    dsimp only at h
    cases hparse : Numeral.parse s with
    | error why =>
      rw [hparse] at h
      cases h
    | ok n =>
      rw [hparse] at h
      cases h
      simp [hparse, Except.toOption]

theorem problem?_stripSlashes (s : String) : Variable.stripSlashes.problem? s =
    ((Numeral.parse s).toOption.bind stripProblem?).map fun p =>
      (p.under (.field "strip_slashes")).under (.field "diff") := by
  rw [Variable.problem?]
  cases (Numeral.parse s).toOption with
  | none => rfl
  | some n => by_cases h : n < 0 <;> simp [stripProblem?, h, Problem.under]

theorem parse_empty : Numeral.parse "" = .error (.malformed 10 "") := by
  decide +kernel

@[simp] theorem nonEmpty?_empty : nonEmpty? (some "") = none := rfl

@[simp] theorem nonEmpty?_of_ne {s : String} (hs : s ≠ "") : nonEmpty? (some s) = some s := by
  simp [nonEmpty?, hs]

theorem bind_nonEmpty? {α : Type} (o : Option String) {f : String → Option α} (hempty : f "" = none) :
    (nonEmpty? o).bind f = o.bind f := by
  cases o with
  | none => rfl
  | some s =>
    by_cases hs : s = ""
    · rw [hs, Option.bind_some, hempty]
      rfl
    · rw [nonEmpty?_of_ne hs]

theorem problemIn?_stripSlashes {env : Environment} {strip : Option Int} (h : environmentStrip env = .ok strip) :
    Variable.stripSlashes.problemIn? env =
      (strip.bind stripProblem?).map fun p => (p.under (.field "strip_slashes")).under (.field "diff") := by
  rw [environmentStrip_eq_ok h, bind_nonEmpty? _ (by rw [parse_empty]; rfl), Variable.problemIn?, Variable.name]
  cases env.get? "DIFF_STRIP_SLASHES" with
  | none => rfl
  | some s => exact problem?_stripSlashes s

theorem elim_patternList (o : Option String) : (nonEmpty? o).elim [] patternList = patternList (o.getD "") := by
  have hempty : patternList "" = [] := by decide
  cases o with
  | none => exact hempty.symm
  | some s =>
    by_cases hs : s = ""
    · rw [hs]
      exact hempty.symm
    · rw [nonEmpty?_of_ne hs]
      rfl

variable {strip}

theorem gathers_diff (h : environmentStrip env = .ok strip) :
    Checked.Gathers (Variable.stripSlashes.problemIn? env).toList (described env strip).diff
      (Checked.under (.field "diff") (Diff.check (Data.ofFields (diffFields env strip)).prune)) := by
  have hlookup := Data.lookup_pruneEntries (diffFields env strip) (by simp [diffFields])
  have hbinary := gathers_plain "git" readText ((hlookup "git_binary").trans (Data.kept?_ofText? _)) fun s => rfl
  have hexcluded := gathers_plain [] readTexts
    ((hlookup "excluded_paths").trans (Data.kept?_elim (fun _ => rfl) _)) fun s => readTexts_ofTexts (patternList s)
  have hstrip := gathers_field 2 checkStrip
    ((hlookup "strip_slashes").trans (Data.kept?_elim (fun _ => rfl) _)) gathers_checkStrip
  have hverbose := gathers_plain false readBool ((hlookup "verbose").trans (rfl : _ = (some _).map Data.bool))
    fun b => rfl
  have htimeout := gathers_absent (⟨600, by decide⟩ : { n : Nat // 0 < n }) checkTimeout (hlookup "timeout")
  refine ((hbinary.map5 hexcluded hstrip hverbose htimeout _).under (.field "diff")).congr ?_ ?_
  · rw [problemIn?_stripSlashes h]
    cases strip.bind stripProblem? <;> rfl
  · rw [described]
    have hbinary : (env.get? "GIT_BINARY").elim "git" (fun s => s) = (env.get? "GIT_BINARY").getD "git" := by
      cases env.get? "GIT_BINARY" <;> rfl
    rw [elim_patternList, hbinary]
    rfl

theorem gathers_check (h : environmentStrip env = .ok strip) :
    Checked.Gathers (problemsIn env) (described env strip) (check (environmentData env strip).prune) := by
  have hsections := (gathers_workflow env strip).map5 (gathers_authoring env strip) (gathers_diff env h)
    (gathers_logging env strip) (Checked.Gathers.ok ()) fun workflow authoring diff logging _ =>
      (⟨workflow, authoring, diff, logging⟩ : Settings)
  rw [prune_environmentData]
  refine hsections.congr ?_ rfl
  have hbaseline := Variable.problemIn?_of_any (v := .changeBaseline) (fun _ => rfl) env
  have hbinary := Variable.problemIn?_of_any (v := .gitBinary) (fun _ => rfl) env
  have hexcluded := Variable.problemIn?_of_any (v := .excludedPaths) (fun _ => rfl) env
  have hverbose := Variable.problemIn?_of_any (v := .verbose) (fun _ => rfl) env
  have hfile := Variable.problemIn?_of_any (v := .file) (fun _ => rfl) env
  simp [problemsIn, Variable.all, List.filterMap_eq_flatMap_toList, hbaseline, hbinary, hexcluded, hverbose, hfile]

/-- An environment whose strip count can be read is refused with all its problems, or gives the settings that it
describes. -/
theorem ofEnvironment_eq (h : environmentStrip env = .ok strip) :
    ofEnvironment env =
      if (problemsIn env).isEmpty then .ok (described env strip)
      else .error (.invalid ⟨.settings, problemsIn env⟩) := by
  rw [ofEnvironment, h]
  change (report .settings _).mapError Failure.invalid = _
  rw [(gathers_check env h).report]
  split <;> rfl

end

/-! ## Fields -/

theorem name_of_mode_unrefused {o : Option String} (h : o.bind Variable.mode.problem? = none) :
    ((o.bind Mode.ofAnyCase?).getD .squash).name = Text.upper (o.getD "SQUASH") := by
  cases o with
  | none => decide +kernel
  | some s =>
    have hname : Text.upper s ∈ Mode.all.map Mode.name := by
      by_contra hno
      simp [Variable.problem?, hno] at h
    obtain ⟨m, hm⟩ := Option.isSome_iff_exists.1 (isSome_ofAnyCase?.2 hname)
    rw [Option.bind_some, hm]
    exact Transplant.Workflow.ofName?_eq_some_iff.1 hm

theorem name_of_level_unrefused {o : Option String} (h : o.bind Variable.level.problem? = none) :
    ((o.bind level?).getD .info).name = Text.upper (o.getD "INFO") := by
  cases o with
  | none => decide +kernel
  | some s =>
    have hname : Text.upper s ∈ Log.Level.configurable.map Log.Level.name := by
      by_contra hno
      simp [Variable.problem?, hno] at h
    obtain ⟨l, hl⟩ := Option.isSome_iff_exists.1 (isSome_level?.2 hname)
    rw [Option.bind_some, hl]
    simpa using List.find?_some hl

theorem parse?_of_author_unrefused {o : Option String} (h : o.bind Variable.defaultAuthor.problem? = none) :
    Author.parse? (o.getD "Tree Migrate <migrate@localhost>") =
      some ((o.bind Author.parse?).getD ({} : Authoring).defaultAuthor) := by
  cases o with
  | none => decide +kernel
  | some s =>
    have hsome : (Author.parse? s).isSome := by
      by_contra hno
      simp [Variable.problem?, hno] at h
    obtain ⟨a, ha⟩ := Option.isSome_iff_exists.1 hsome
    rw [Option.getD_some, Option.bind_some, ha, Option.getD_some]

theorem toNat_of_strip_unrefused {strip : Option Int} (h : strip.bind stripProblem? = none) :
    ((strip.elim 2 Int.toNat : Nat) : Int) = strip.getD 2 := by
  cases strip with
  | none => rfl
  | some n =>
    have hn : ¬n < 0 := by
      intro hn
      simp [stripProblem?, hn] at h
    exact Int.toNat_of_nonneg (Int.not_lt.1 hn)

theorem field_described {env : Environment} {strip : Option Int} (h : environmentStrip env = .ok strip)
    (hproblems : problemsIn env = []) (v : Variable) :
    v.field (described env strip) = v.value (env.get? v.name) := by
  have hno : v.problemIn? env = none := by
    have hmem : v ∈ Variable.all := by cases v <;> decide
    exact List.filterMap_eq_nil_iff.1 hproblems v hmem
  cases v with
  | changeBaseline | gitBinary | excludedPaths | verbose | file => rfl
  | mode => exact congrArg Data.text (name_of_mode_unrefused hno)
  | level => exact congrArg Data.text (name_of_level_unrefused hno)
  | defaultAuthor =>
    rw [Variable.value, parse?_of_author_unrefused hno]
    rfl
  | stripSlashes =>
    rw [problemIn?_stripSlashes h, Option.map_eq_none_iff] at hno
    rw [Variable.value, Variable.name, ← environmentStrip_eq_ok h, ← toNat_of_strip_unrefused hno]
    rfl

/-- Whether the fields that no variable sets have their defaults. -/
def Unreached (s : Settings) : Prop :=
  s.workflow.squashMessage = ({} : Workflow).squashMessage ∧ s.diff.timeout = Diff.standard.timeout ∧
    s.logging.format = ({} : Logging).format

/-! ## What comes of an environment -/

variable {env env' : Environment} {s s' : Settings}

theorem environmentStrip_eq_error {failure : Failure} :
    environmentStrip env = .error failure ↔
      ∃ digits why, env.get? "DIFF_STRIP_SLASHES" = some digits ∧ digits ≠ "" ∧ Numeral.parse digits = .error why ∧
        failure = .badNumeral why := by
  unfold environmentStrip
  cases hget : env.get? "DIFF_STRIP_SLASHES" with
  | none => simp [nonEmpty?]
  | some digits =>
    by_cases hempty : digits = ""
    · rw [hempty, nonEmpty?_empty]
      simp
    · rw [nonEmpty?_of_ne hempty]
      cases hparse : Numeral.parse digits <;> simp [hempty, hparse, Except.map, Except.mapError, eq_comm]

theorem ofEnvironment_eq_badNumeral {why : Numeral.Fault} :
    ofEnvironment env = .error (.badNumeral why) ↔
      ∃ digits, env.get? "DIFF_STRIP_SLASHES" = some digits ∧ digits ≠ "" ∧ Numeral.parse digits = .error why := by
  cases hstrip : environmentStrip env with
  | error failure =>
    have hfails : ofEnvironment env = .error failure := by
      rw [ofEnvironment, hstrip]
      rfl
    rw [hfails]
    obtain ⟨digits, found, hget, hset, hparse, rfl⟩ := environmentStrip_eq_error.1 hstrip
    simp [hget, hset, hparse]
  | ok strip =>
    have hnot : ofEnvironment env ≠ .error (.badNumeral why) := by
      rw [ofEnvironment_eq env hstrip]
      split <;> simp
    refine iff_of_false hnot ?_
    rintro ⟨digits, hget, hset, hparse⟩
    have hfails := environmentStrip_eq_error.2 ⟨digits, why, hget, hset, hparse, rfl⟩
    rw [hstrip] at hfails
    cases hfails

theorem environmentStrip_of_no_badNumeral (h : ∀ why, ofEnvironment env ≠ .error (.badNumeral why)) :
    ∃ strip, environmentStrip env = .ok strip := by
  cases hstrip : environmentStrip env with
  | ok strip => exact ⟨strip, rfl⟩
  | error failure =>
    obtain ⟨digits, why, hget, hset, hparse, -⟩ := environmentStrip_eq_error.1 hstrip
    exact absurd (ofEnvironment_eq_badNumeral.2 ⟨digits, hget, hset, hparse⟩) (h why)

theorem ofEnvironment_eq_ok (h : ofEnvironment env = .ok s) :
    ∃ strip, environmentStrip env = .ok strip ∧ problemsIn env = [] ∧ s = described env strip := by
  have hno : ∀ why, ofEnvironment env ≠ .error (.badNumeral why) := fun why => by simp [h]
  obtain ⟨strip, hstrip⟩ := environmentStrip_of_no_badNumeral hno
  rw [ofEnvironment_eq env hstrip] at h
  split at h
  case isTrue hnone =>
    cases h
    exact ⟨strip, hstrip, List.isEmpty_iff.1 hnone, rfl⟩
  case isFalse => cases h

theorem field_of_ofEnvironment (h : ofEnvironment env = .ok s) (v : Variable) :
    v.field s = v.value (env.get? v.name) := by
  obtain ⟨strip, hstrip, hproblems, rfl⟩ := ofEnvironment_eq_ok h
  exact field_described hstrip hproblems v

theorem unreached_of_ofEnvironment (h : ofEnvironment env = .ok s) : Unreached s := by
  obtain ⟨strip, -, -, rfl⟩ := ofEnvironment_eq_ok h
  exact ⟨rfl, rfl, rfl⟩

/-- **Variables do not interfere.** A strip count that is no numeral is told alone. Otherwise the problems are those
of the variables that are refused, in the order of the fields, and without any there are settings, each field of
which is what its own variable says: so a variable that is changed changes no other field. -/
theorem ofEnvironment_separates :
    (∀ env why, ofEnvironment env = .error (.badNumeral why) ↔
      ∃ digits, env.get? Variable.stripSlashes.name = some digits ∧ digits ≠ "" ∧
        Numeral.parse digits = .error why) ∧
    (∀ env, (∀ why, ofEnvironment env ≠ .error (.badNumeral why)) →
      (∀ failure, ofEnvironment env = .error failure ↔
        problemsIn env ≠ [] ∧ failure = .invalid ⟨.settings, problemsIn env⟩) ∧
      ((∃ s, ofEnvironment env = .ok s) ↔ problemsIn env = [])) ∧
    (∀ v : Variable, (v.problem? "").isSome ↔ v ∈ [.mode, .defaultAuthor, .level]) ∧
    (∀ env s, ofEnvironment env = .ok s → Unreached s ∧ ∀ v : Variable, v.field s = v.value (env.get? v.name)) ∧
    (∀ v : Variable, v.value none = v.field {}) ∧
    Variable.stripSlashes.value (some "") = Variable.stripSlashes.value none ∧
    ∀ env env' s s' changed, ofEnvironment env = .ok s → ofEnvironment env' = .ok s' →
      (∀ name ≠ changed, env.get? name = env'.get? name) →
      ∀ v : Variable, v.name ≠ changed → v.field s = v.field s' := by
  refine ⟨fun _ _ => ofEnvironment_eq_badNumeral, fun env hnumeral => ?_, fun v => ?_,
    fun _ _ h => ⟨unreached_of_ofEnvironment h, field_of_ofEnvironment h⟩, Variable.value_none, rfl, ?_⟩
  · obtain ⟨strip, hstrip⟩ := environmentStrip_of_no_badNumeral hnumeral
    rw [ofEnvironment_eq env hstrip]
    by_cases hnone : problemsIn env = []
    · simp [hnone]
    · rw [if_neg (by simpa using hnone)]
      refine ⟨fun failure => ⟨?_, ?_⟩, iff_of_false ?_ hnone⟩
      · rintro ⟨⟩
        exact ⟨hnone, rfl⟩
      · rintro ⟨-, rfl⟩
        rfl
      · rintro ⟨s, ⟨⟩⟩
  · have hmode : Text.upper "" ∉ Mode.all.map Mode.name := by decide +kernel
    have hlevel : Text.upper "" ∉ Log.Level.configurable.map Log.Level.name := by decide +kernel
    have hauthor : Author.parse? "" = none := by decide +kernel
    cases v <;> simp [Variable.problem?, hmode, hlevel, hauthor, parse_empty, Except.toOption]
  · intro env env' s s' changed h h' hagree v hv
    rw [field_of_ofEnvironment h, field_of_ofEnvironment h', hagree v.name hv]

/-- Variables that describe settings, with some level. -/
def levelled (level : String) : Environment :=
  [("LOG_LEVEL", level), ("DIFF_STRIP_SLASHES", " +1_0\n"), ("MIGRATE_MODE", "iterative"), ("GIT_BINARY", "")]

/-- Variables of which three are refused. -/
def refusedThrice : Environment :=
  [("LOG_LEVEL", ""), ("DIFF_STRIP_SLASHES", "-1"), ("MIGRATE_MODE", "")]

theorem ofEnvironment_separates_levels :
    (∃ s s', ofEnvironment (levelled "debug") = .ok s ∧ ofEnvironment (levelled "Error") = .ok s' ∧
      Variable.mode.field s = Variable.mode.field s' ∧ Variable.level.field s = .text (Text.upper "debug")) ∧
    (∃ problems, ofEnvironment refusedThrice = .error (.invalid ⟨.settings, problems⟩) ∧
      problems.map (·.path) = [[.field "workflow", .field "mode"], [.field "diff", .field "strip_slashes"],
        [.field "logging", .field "level"]]) ∧
    ofEnvironment [("DIFF_STRIP_SLASHES", "x"), ("MIGRATE_MODE", "")] = .error (.badNumeral (.malformed 10 "x")) := by
  obtain ⟨hnumeral, hotherwise, -, hfields, -, -, hframe⟩ := ofEnvironment_separates
  have hten : Numeral.parse " +1_0\n" = .ok 10 := by decide +kernel
  have hminus : Numeral.parse "-1" = .ok (-1) := by decide +kernel
  have hread (level : String) : ∀ why, ofEnvironment (levelled level) ≠ .error (.badNumeral why) := by
    intro why hbad
    obtain ⟨digits, ⟨⟩, -, hparse⟩ := (hnumeral _ why).1 hbad
    cases hten.symm.trans hparse
  have hread' : ∀ why, ofEnvironment refusedThrice ≠ .error (.badNumeral why) := by
    intro why hbad
    obtain ⟨digits, ⟨⟩, -, hparse⟩ := (hnumeral _ why).1 hbad
    cases hminus.symm.trans hparse
  obtain ⟨s, hs⟩ := (hotherwise _ (hread "debug")).2.2 (List.isEmpty_iff.1 (by decide +kernel))
  obtain ⟨s', hs'⟩ := (hotherwise _ (hread "Error")).2.2 (List.isEmpty_iff.1 (by decide +kernel))
  refine ⟨⟨s, s', hs, hs', ?_, (hfields _ s hs).2 .level⟩, ⟨_, ((hotherwise _ hread').1 _).2 ⟨?_, rfl⟩, ?_⟩, ?_⟩
  · refine hframe _ _ s s' "LOG_LEVEL" hs hs' (fun name hname => ?_) .mode (by decide)
    have hother : ("LOG_LEVEL" == name) = false := by simpa using hname.symm
    simp [levelled, Environment.get?, List.find?_cons, hother]
  · exact fun hnone => absurd (congrArg List.isEmpty hnone) (by decide +kernel)
  · decide +kernel
  · exact (hnumeral _ _).2 ⟨"x", rfl, by decide, by decide +kernel⟩

end Transplant.Settings
