import Transplant.Proofs.Settings.Environment
import Transplant.Proofs.Text.Decimal
import Transplant.Proofs.Text.Trim

/-!
# Settings passed on as variables

Settings can be told to another process as variables, and are read there as they were. The one field that is a list
is told as its patterns between commas. Its reader passes over blank pieces and the blanks around the others, so one
list has many spellings (`Spells`), and a list that was read is spelled by its patterns alone.

Main statement: `ofEnvironment_supplied`.
-/

namespace Transplant.Settings

open Text

/-! ## Lists of patterns -/

/-- A pattern that can stand in a list: it has no comma, and neither begins nor ends with a blank. -/
structure Listable (p : String) : Prop where
  not_blank : allBlank p = false
  trimmed : trim p = p
  no_comma : ',' ∉ p.toList

/-- The pieces that spell a list of patterns: each pattern with some blanks around it, and further pieces of blanks
only. -/
inductive Spells : List String → List String → Prop where
  | nil : Spells [] []
  | blank {piece : String} {pieces patterns : List String} :
    allBlank piece → Spells pieces patterns → Spells (piece :: pieces) patterns
  | pattern {front p back : String} {pieces patterns : List String} :
    allBlank front → allBlank back → Spells pieces patterns → Spells ((front ++ p ++ back) :: pieces) (p :: patterns)

/-- The pattern that a piece has, if it is not blank. -/
def patternOf? (piece : List Char) : Option String :=
  if (trimBy isBlank piece).isEmpty then none else some (String.ofList (trimBy isBlank piece))

variable {piece : List Char} {pieces patterns : List String} {p front back : String}

theorem patternList_eq (s : String) : patternList s = (splitOn ',' s.toList).filterMap patternOf? := by
  rw [patternList, List.filterMap_map]
  rfl

theorem isBlank_of_mem {s : String} (h : allBlank s) : ∀ c ∈ s.toList, isBlank c := by
  simpa [allBlank] using h

theorem comma_not_mem_of_allBlank {s : String} (h : allBlank s) : ',' ∉ s.toList := by
  have hcomma : isBlank ',' = false := by decide
  intro hmem
  rw [isBlank_of_mem h _ hmem] at hcomma
  cases hcomma

theorem patternOf?_blank {s : String} (h : allBlank s) : patternOf? s.toList = none := by
  have htrim : trimBy isBlank ([] ++ s.toList) = [] := trimBy_append_of_pos (isBlank_of_mem h)
  rw [patternOf?, ← List.nil_append s.toList, htrim]
  rfl

theorem patternOf?_padded (hp : Listable p) (hfront : allBlank front) (hback : allBlank back) :
    patternOf? (front ++ p ++ back).toList = some p := by
  have htrim : trimBy isBlank (front ++ p ++ back).toList = p.toList := by
    rw [String.toList_append, String.toList_append, trimBy_append_of_pos (isBlank_of_mem hback), trimBy,
      List.dropWhile_append_of_pos (isBlank_of_mem hfront)]
    have h := toList_trim p
    rw [hp.trimmed] at h
    exact h.symm
  have hne : p.toList.isEmpty = false := by
    have hblank := hp.not_blank
    cases hcs : p.toList with
    | nil => simp [allBlank, hcs] at hblank
    | cons c cs => rfl
  rw [patternOf?, htrim, hne]
  simp

namespace Spells

theorem filterMap (h : Spells pieces patterns) (hlist : ∀ p ∈ patterns, Listable p) :
    (pieces.map String.toList).filterMap patternOf? = patterns := by
  induction h with
  | nil => rfl
  | blank hblank _ ih => rw [List.map_cons, List.filterMap_cons_none (patternOf?_blank hblank), ih hlist]
  | pattern hfront hback _ ih =>
    rw [List.map_cons, List.filterMap_cons_some (patternOf?_padded (hlist _ List.mem_cons_self) hfront hback),
      ih fun p hp => hlist p (List.mem_cons_of_mem _ hp)]

theorem no_comma (h : Spells pieces patterns) (hlist : ∀ p ∈ patterns, Listable p) :
    ∀ piece ∈ pieces, ',' ∉ piece.toList := by
  induction h with
  | nil => simp
  | blank hpiece _ ih => simpa [comma_not_mem_of_allBlank hpiece] using ih hlist
  | pattern hfront hback _ ih =>
    have hp := (hlist _ List.mem_cons_self).no_comma
    have hrest := ih fun p hp => hlist p (List.mem_cons_of_mem _ hp)
    simpa [comma_not_mem_of_allBlank hfront, comma_not_mem_of_allBlank hback, hp] using hrest

/-- A list is read from each of its spellings. -/
theorem patternList_eq (h : Spells pieces patterns) (hlist : ∀ p ∈ patterns, Listable p) :
    patternList (",".intercalate pieces) = patterns := by
  rw [Settings.patternList_eq, String.toList_intercalate, splitOn_eq]
  by_cases hnil : pieces = []
  · subst hnil
    cases h
    decide
  · have hcomma : ∀ piece ∈ pieces.map String.toList, ',' ∉ piece := by simpa using h.no_comma hlist
    have hsplit : List.splitOn ',' (",".toList.intercalate (pieces.map String.toList)) = pieces.map String.toList :=
      List.splitOn_intercalate ',' hcomma (by simpa using hnil)
    rw [hsplit, h.filterMap hlist]

theorem self (patterns : List String) : Spells patterns patterns := by
  induction patterns with
  | nil => exact .nil
  | cons p patterns ih =>
    have h := @Spells.pattern "" p "" _ _ rfl rfl ih
    simpa using h

end Spells

theorem allBlank_ofList {cs : List Char} (h : ∀ c ∈ cs, isBlank c) : allBlank (String.ofList cs) := by
  simpa [allBlank] using h

/-- What is read from a piece is spelled by it. -/
theorem patternOf?_eq_some (hp : patternOf? piece = some p) (hcomma : ',' ∉ piece) :
    Listable p ∧ ∃ front back, allBlank front ∧ allBlank back ∧ String.ofList piece = front ++ p ++ back := by
  have htrimmed := trimmed_trimBy piece
  obtain ⟨front, back, hsplit, hfront, hback⟩ := htrimmed.split
  rw [patternOf?] at hp
  split at hp
  case isTrue => cases hp
  case isFalse hne =>
    cases hp
    refine ⟨⟨?_, ?_, ?_⟩, String.ofList front, String.ofList back, allBlank_ofList hfront, allBlank_ofList hback, ?_⟩
    · cases hcs : trimBy isBlank piece with
      | nil => simp [hcs] at hne
      | cons c cs =>
        have hc : isBlank c = false := htrimmed.head c (by rw [hcs]; rfl)
        simp [allBlank, hc]
    · have hself := trimBy_eq_self_iff.2 ⟨htrimmed.head, htrimmed.last⟩
      rw [trim, String.toList_ofList, hself]
    · rw [String.toList_ofList]
      intro hmem
      rw [hsplit] at hcomma
      simp [hmem] at hcomma
    · rw [← String.ofList_append, ← String.ofList_append, ← hsplit]

theorem allBlank_of_patternOf?_eq_none (h : patternOf? piece = none) : allBlank (String.ofList piece) := by
  obtain ⟨front, back, hsplit, hfront, hback⟩ := (trimmed_trimBy piece).split
  rw [patternOf?] at h
  split at h
  case isFalse => cases h
  case isTrue hnil =>
    rw [List.isEmpty_iff] at hnil
    rw [hnil, List.append_nil] at hsplit
    refine allBlank_ofList fun c hc => ?_
    rw [hsplit, List.mem_append] at hc
    exact hc.elim (hfront c) (hback c)

theorem spells_filterMap {pieces : List (List Char)} (hcomma : ∀ piece ∈ pieces, ',' ∉ piece) :
    Spells (pieces.map String.ofList) (pieces.filterMap patternOf?) ∧
      ∀ p ∈ pieces.filterMap patternOf?, Listable p := by
  induction pieces with
  | nil => exact ⟨.nil, by simp⟩
  | cons piece pieces ih =>
    obtain ⟨hspells, hlist⟩ := ih fun other hother => hcomma other (List.mem_cons_of_mem _ hother)
    rw [List.map_cons]
    cases hp : patternOf? piece with
    | none =>
      rw [List.filterMap_cons_none hp]
      exact ⟨.blank (allBlank_of_patternOf?_eq_none hp) hspells, hlist⟩
    | some p =>
      obtain ⟨hlistable, front, back, hfront, hback, heq⟩ := patternOf?_eq_some hp (hcomma piece List.mem_cons_self)
      rw [List.filterMap_cons_some hp, heq]
      exact ⟨.pattern hfront hback hspells, List.forall_mem_cons.2 ⟨hlistable, hlist⟩⟩

theorem filterMap_patternOf? (pieces : List (List Char)) :
    pieces.filterMap patternOf? = ((pieces.map String.ofList).map trim).filter (· ≠ "") := by
  induction pieces with
  | nil => rfl
  | cons piece pieces ih =>
    have hpiece : patternOf? piece =
        if trim (String.ofList piece) = "" then none else some (trim (String.ofList piece)) := by
      simp [patternOf?, trim, String.toList_ofList]
    by_cases hnil : trim (String.ofList piece) = ""
    · rw [if_pos hnil] at hpiece
      simp [hpiece, hnil, ih]
    · rw [if_neg hnil] at hpiece
      simp [hpiece, hnil, ih]

/-- Every list is a spelling of what is read from it. -/
theorem spells_patternList (s : String) :
    ∃ pieces, s = ",".intercalate pieces ∧ (∀ piece ∈ pieces, ',' ∉ piece.toList) ∧
      patternList s = (pieces.map trim).filter (· ≠ "") ∧
      Spells pieces (patternList s) ∧ ∀ p ∈ patternList s, Listable p := by
  have hcomma : ∀ piece ∈ splitOn ',' s.toList, ',' ∉ piece := fun piece => not_mem_of_mem_splitOn
  refine ⟨(splitOn ',' s.toList).map String.ofList, ?_, ?_, ?_, ?_⟩
  · rw [← String.toList_inj, String.toList_intercalate, List.map_map, splitOn_eq]
    simp [Function.comp_def]
  · simpa using hcomma
  · rw [patternList_eq, filterMap_patternOf?]
  · rw [patternList_eq]
    exact spells_filterMap hcomma

/-! ## Variables -/

/-- Whether an environment tells settings: each variable has the value of its field, a word for true or false may have
any case, and what is none is not set. -/
structure Supplies (env : Environment) (s : Settings) : Prop where
  mode : env.get? "MIGRATE_MODE" = some s.workflow.mode.name
  changeBaseline : env.get? "MIGRATE_CHANGE_BASELINE" = s.workflow.changeBaseline
  defaultAuthor : env.get? "MIGRATE_DEFAULT_AUTHOR" = some s.authoring.defaultAuthor.text
  gitBinary : env.get? "GIT_BINARY" = some s.diff.gitBinary
  excludedPaths : ∃ pieces, env.get? "DIFF_EXCLUDED_PATHS" = some (",".intercalate pieces) ∧
    Spells pieces s.diff.excludedPaths
  stripSlashes : env.get? "DIFF_STRIP_SLASHES" = some (decimal s.diff.stripSlashes)
  verbose : ∃ word, env.get? "DIFF_VERBOSE" = some word ∧ asciiLower word = if s.diff.verbose then "true" else "false"
  level : env.get? "LOG_LEVEL" = some s.logging.level.name
  file : env.get? "LOG_FILE" = s.logging.file

variable {env : Environment} {s : Settings}

theorem Supplies.environmentStrip (h : Supplies env s)
    (hdigits : (digits s.diff.stripSlashes).length ≤ Numeral.maxDigits) :
    environmentStrip env = .ok (some (s.diff.stripSlashes : Int)) := by
  have hne : decimal s.diff.stripSlashes ≠ "" := by
    intro hempty
    refine digits_ne_nil s.diff.stripSlashes ?_
    rw [← String.toList_ofList (l := digits _), ← decimal, hempty]
    rfl
  rw [Settings.environmentStrip, h.stripSlashes, nonEmpty?_of_ne hne]
  dsimp only
  rw [parse_decimal hdigits]
  rfl

theorem upper_level (l : Log.Level) : upper l.name = l.name := by
  cases l <;> decide +kernel

theorem Supplies.problemsIn (h : Supplies env s) (hnormal : s.Normal)
    (hdigits : (digits s.diff.stripSlashes).length ≤ Numeral.maxDigits) : problemsIn env = [] := by
  refine List.filterMap_eq_nil_iff.2 fun v _ => ?_
  cases v with
  | changeBaseline | gitBinary | excludedPaths | verbose | file => exact Variable.problemIn?_of_any (fun _ => rfl) env
  | mode =>
    have hmem : s.workflow.mode ∈ Mode.all := by cases s.workflow.mode <;> decide
    have hname : upper s.workflow.mode.name ∈ Mode.all.map Mode.name := by
      rw [Transplant.Workflow.upper_name]
      exact List.mem_map_of_mem hmem
    rw [Variable.problemIn?, Variable.name, h.mode, Option.bind_some, Variable.problem?, if_pos hname]
  | level =>
    have hname : upper s.logging.level.name ∈ Log.Level.configurable.map Log.Level.name := by
      rw [upper_level]
      exact List.mem_map_of_mem hnormal.logging
    rw [Variable.problemIn?, Variable.name, h.level, Option.bind_some, Variable.problem?, if_pos hname]
  | defaultAuthor =>
    have hparse := Author.parse?_text hnormal.authoring
    rw [Variable.problemIn?, Variable.name, h.defaultAuthor, Option.bind_some, Variable.problem?, hparse]
    rfl
  | stripSlashes =>
    have hpositive : ¬(s.diff.stripSlashes : Int) < 0 := by omega
    rw [problemIn?_stripSlashes (h.environmentStrip hdigits), Option.bind_some, stripProblem?, if_neg hpositive]
    rfl

theorem level?_name {l : Log.Level} (h : l ∈ Log.Level.configurable) : level? l.name = some l := by
  obtain ⟨_, ⟨⟩, hfind⟩ := checkLevel_eq_ok.1 (checkLevel_name h)
  exact hfind

theorem Supplies.described (h : Supplies env s) (hnormal : s.Normal) (hunreached : Unreached s)
    (hlist : ∀ p ∈ s.diff.excludedPaths, Listable p) :
    described env (some (s.diff.stripSlashes : Int)) = s := by
  obtain ⟨pieces, hpieces, hspells⟩ := h.excludedPaths
  obtain ⟨word, hword, hcase⟩ := h.verbose
  obtain ⟨hmessage, htimeout, hformat⟩ := hunreached
  have hmode : Mode.ofAnyCase? s.workflow.mode.name = some s.workflow.mode :=
    Transplant.Workflow.ofName?_eq_some_iff.2 (Transplant.Workflow.upper_name _).symm
  have hbaseline : s.workflow.changeBaseline.filter (fun b => !allBlank b) = s.workflow.changeBaseline := by
    cases hset : s.workflow.changeBaseline with
    | none => rfl
    | some b => simp [hnormal.workflow b hset]
  have hverbose : (asciiLower word == "true") = s.diff.verbose := by
    rw [hcase]
    cases s.diff.verbose <;> decide +kernel
  rw [Settings.described, h.mode, h.changeBaseline, h.defaultAuthor, h.gitBinary, hpieces, hword, h.level, h.file]
  simp only [Option.bind_some, Option.getD_some, Option.elim_some, hmode, hbaseline, hverbose, Int.toNat_natCast,
    Author.parse?_text hnormal.authoring, level?_name hnormal.logging, hspells.patternList_eq hlist]
  obtain ⟨⟨mode, baseline, message⟩, ⟨author⟩, ⟨binary, excluded, strip, verbose, timeout, _⟩,
    ⟨level, file, format⟩⟩ := s
  cases hmessage
  cases htimeout
  cases hformat
  rfl

theorem excludedPaths_of_ofEnvironment {list : String} (h : ofEnvironment env = .ok s)
    (hlist : env.get? "DIFF_EXCLUDED_PATHS" = some list) : s.diff.excludedPaths = patternList list := by
  obtain ⟨strip, -, -, rfl⟩ := ofEnvironment_eq_ok h
  rw [Settings.described, hlist]
  rfl

/-- **Settings told as variables are read as they were**, if what no variable sets has its default, the patterns can
stand in a list and the strip count has at most 4300 digits. The patterns that are read from any list are the pieces
between its commas without the blanks around them, where blank ones are passed over, and they can stand in a list that
is read as them. -/
theorem ofEnvironment_supplied :
    (∀ d s env, ofData d = .ok s → Unreached s → (∀ p ∈ s.diff.excludedPaths, Listable p) →
      (digits s.diff.stripSlashes).length ≤ Numeral.maxDigits → Supplies env s → ofEnvironment env = .ok s) ∧
    ∀ env s list, ofEnvironment env = .ok s → env.get? "DIFF_EXCLUDED_PATHS" = some list →
      (∃ pieces, list = ",".intercalate pieces ∧ (∀ piece ∈ pieces, ',' ∉ piece.toList) ∧
        s.diff.excludedPaths = (pieces.map trim).filter (· ≠ "") ∧ Spells pieces s.diff.excludedPaths) ∧
      (∀ p ∈ s.diff.excludedPaths, Listable p) ∧
      ∀ env' s', ofEnvironment env' = .ok s' →
        env'.get? "DIFF_EXCLUDED_PATHS" = some (",".intercalate s.diff.excludedPaths) →
        s'.diff.excludedPaths = s.diff.excludedPaths := by
  refine ⟨fun d s env hd hunreached hlist hdigits h => ?_, fun env s list h hget => ?_⟩
  · have hnormal := normal_of_ofData hd
    rw [ofEnvironment_eq env (h.environmentStrip hdigits), h.problemsIn hnormal hdigits,
      h.described hnormal hunreached hlist]
    rfl
  · obtain ⟨pieces, hjoined, hcomma, hpatterns, hspells, hlist⟩ := spells_patternList list
    rw [excludedPaths_of_ofEnvironment h hget]
    refine ⟨⟨pieces, hjoined, hcomma, hpatterns, hspells⟩, hlist, fun env' s' h' hget' => ?_⟩
    rw [excludedPaths_of_ofEnvironment h' hget']
    exact (Spells.self (patternList list)).patternList_eq hlist

/-- Settings with a nameless author, patterns that begin like options, and no log file. -/
def exported : Settings :=
  { workflow := { mode := .changeRequest, changeBaseline := some "a\n" }
    authoring := { defaultAuthor := ⟨"", "ada@b"⟩ }
    diff := { Diff.standard with excludedPaths := ["*.o", "a b/**", "*.o"], stripSlashes := 10, verbose := true }
    logging := { level := .critical } }

/-- These settings as variables. -/
def exporting : Environment :=
  [ ("MIGRATE_MODE", "CHANGE_REQUEST"), ("MIGRATE_CHANGE_BASELINE", "a\n"), ("MIGRATE_DEFAULT_AUTHOR", " <ada@b>")
  , ("GIT_BINARY", "git"), ("DIFF_EXCLUDED_PATHS", " ,*.o,\ta b/** ,*.o,,"), ("DIFF_STRIP_SLASHES", "10")
  , ("DIFF_VERBOSE", "tRUE"), ("LOG_LEVEL", "CRITICAL") ]

theorem ofEnvironment_supplied_exporting :
    ofEnvironment exporting = .ok exported ∧ ∀ p ∈ exported.diff.excludedPaths, Listable p := by
  obtain ⟨hback, hlists⟩ := ofEnvironment_supplied
  obtain ⟨pieces, hpieces, -, -, hspells, hlist⟩ := spells_patternList " ,*.o,\ta b/** ,*.o,,"
  have hpatterns : patternList " ,*.o,\ta b/** ,*.o,," = exported.diff.excludedPaths := by decide +kernel
  rw [hpatterns] at hspells hlist
  have hdigits : (digits exported.diff.stripSlashes).length ≤ Numeral.maxDigits := by decide +kernel
  have hsupplies : Supplies exporting exported :=
    { mode := rfl
      changeBaseline := rfl
      defaultAuthor := rfl
      gitBinary := rfl
      excludedPaths := ⟨pieces, congrArg some hpieces, hspells⟩
      stripSlashes := congrArg some (by decide +kernel)
      verbose := ⟨"tRUE", rfl, by decide +kernel⟩
      level := rfl
      file := rfl }
  have hread : ofEnvironment exporting = .ok exported :=
    hback exported.toData exported exporting rfl ⟨rfl, rfl, rfl⟩ hlist hdigits hsupplies
  exact ⟨hread, (hlists exporting exported _ hread rfl).2.1⟩

end Transplant.Settings
