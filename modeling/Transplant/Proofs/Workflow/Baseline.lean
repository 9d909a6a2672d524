import Transplant.Proofs.History
import Transplant.Proofs.Schema.Checked
import Transplant.Proofs.Workflow.Exec

/-!
# The baseline of a change request

A baseline that the options name is taken as it is. Otherwise the history is searched from the most
recent change with the resolved reference on, up to the first change that carries the origin label.

Main statement: which changes a change request looks at and which baseline it goes on with
(`changeRequest_baseline`); an empty label ends the run as if there were none.
-/

namespace Transplant.Workflow

open History (since_of_mem since_eq_cons since_eq_nil walk_cons)

/-! ## Visits -/

/-- The references of the changes that a search looked at, among some events. -/
def visits (events : List Event) : List String :=
  events.filterMap fun
    | .visit ref => some ref
    | _ => none

@[simp] theorem visits_migrate (call : Call) (events : List Event) :
    visits (.migrate call :: events) = visits events := rfl

/-- The events of a search that looks at some changes. -/
def visitsTo (shown : List Change) : List Event :=
  shown.map fun c => .visit c.ref

theorem visits_talk {talk : List Event} (htalk : ∀ e ∈ talk, e.isTalk) : visits talk = [] := by
  refine List.filterMap_eq_nil_iff.2 fun e he => ?_
  have := htalk e he
  cases e <;> simp_all [Event.isTalk]

/-! ## Searching -/

theorem lookForLabel_run (label : String) (c : Change) (r : Run) (found : Option String) :
    (lookForLabel label c).run.run (r, found) =
      match c.label? label with
      | none => (.ok .proceed, r.record [.visit c.ref], found)
      | some value => (.ok .terminate, r.record [.visit c.ref], some value) := by
  rw [lookForLabel]
  cases c.label? label <;> rfl

/-- The changes up to the first one that carries a label, all of them if none does. -/
def upToLabel (label : String) : List Change → List Change
  | [] => []
  | c :: rest => if (c.label? label).isSome then [c] else c :: upToLabel label rest

/-- The value of a label that the last of some changes carries. -/
def lastLabel (label : String) (changes : List Change) : Option String :=
  changes.getLast?.bind fun c => c.label? label

theorem lastLabel_cons {label : String} {c : Change} (changes : List Change)
    (hnone : c.label? label = none) : lastLabel label (c :: changes) = lastLabel label changes := by
  rw [lastLabel, lastLabel, List.getLast?_cons]
  cases changes.getLast? with
  | none => simpa using hnone
  | some d => rfl

/-- A search looks at the changes up to the first labelled one and finds its label. -/
theorem walk_lookForLabel (label : String) (changes : List Change) (r : Run) :
    (History.walk (lookForLabel label) changes).run.run (r, none) =
      (.ok (), r.record (visitsTo (upToLabel label changes)),
        lastLabel label (upToLabel label changes)) := by
  induction changes generalizing r with
  | nil => simp [History.walk, upToLabel, visitsTo, lastLabel]; rfl
  | cons c rest ih =>
    rw [walk_cons, lookForLabel_run]
    cases hlabel : c.label? label with
    | none =>
      have hshown : upToLabel label (c :: rest) = c :: upToLabel label rest := by
        simp [upToLabel, hlabel]
      rw [hshown, lastLabel_cons _ hlabel]
      dsimp only
      rw [ih, record_record]
      rfl
    | some value => simp [upToLabel, visitsTo, lastLabel, hlabel]

theorem upToLabel_ne_nil (label : String) (c : Change) (rest : List Change) :
    ∃ more, upToLabel label (c :: rest) = c :: more := by
  rw [upToLabel]
  split
  · exact ⟨[], rfl⟩
  · exact ⟨_, rfl⟩

/-- Only the end of the changes or a label ends a search. -/
theorem upToLabel_cut (label : String) (changes : List Change) :
    ∃ older, changes = upToLabel label changes ++ older ∧
      (older = [] ∨ (lastLabel label (upToLabel label changes)).isSome) := by
  induction changes with
  | nil => exact ⟨[], rfl, Or.inl rfl⟩
  | cons c rest ih =>
    obtain ⟨older, hcut, hend⟩ := ih
    cases hlabel : c.label? label with
    | some value =>
      refine ⟨rest, ?_, Or.inr ?_⟩
      · simp [upToLabel, hlabel]
      · simp [upToLabel, lastLabel, hlabel]
    | none =>
      have hshown : upToLabel label (c :: rest) = c :: upToLabel label rest := by
        simp [upToLabel, hlabel]
      rw [hshown, lastLabel_cons _ hlabel]
      exact ⟨older, congrArg (c :: ·) hcut, hend⟩

theorem upToLabel_silent {label : String} {changes : List Change} {c : Change}
    (hc : c ∈ (upToLabel label changes).dropLast) : c.label? label = none := by
  induction changes with
  | nil => simp [upToLabel] at hc
  | cons d rest ih =>
    rw [upToLabel] at hc
    by_cases hlabel : (d.label? label).isSome
    · simp [hlabel] at hc
    · rw [if_neg hlabel] at hc
      cases hrest : upToLabel label rest with
      | nil => simp [hrest] at hc
      | cons e more =>
        rw [hrest, List.dropLast_cons_cons, List.mem_cons] at hc
        rcases hc with rfl | hc
        · simpa using hlabel
        · exact ih (hrest ▸ hc)

/-- What a search for a label from a reference on looks at: the changes from the most recent one with
the reference up to the first that carries the label, or to the end of the history if none does. -/
structure Searched (history : List Change) (ref label : String) (shown : List Change) : Prop where
  cut : ∃ newer older, history = newer ++ shown ++ older ∧ (∀ c ∈ newer, c.ref ≠ ref) ∧
    (older = [] ∨ (lastLabel label shown).isSome)
  first : ∃ c, shown.head? = some c ∧ c.ref = ref
  silent : ∀ c ∈ shown.dropLast, c.label? label = none

theorem searched_upToLabel {history : List Change} {ref : String}
    (hknown : ∃ c ∈ history, c.ref = ref) (label : String) :
    Searched history ref label (upToLabel label (History.since history ref)) := by
  obtain ⟨newer, c, older, hsplit, hnewer, href, hsince⟩ := since_of_mem hknown
  obtain ⟨left, hcut, hend⟩ := upToLabel_cut label (c :: older)
  obtain ⟨more, hfirst⟩ := upToLabel_ne_nil label c older
  rw [hsince]
  refine ⟨⟨newer, left, ?_, hnewer, hend⟩, ⟨c, ?_, href⟩, fun d hd => upToLabel_silent hd⟩
  · rw [List.append_assoc, ← hcut]
    exact hsplit
  · rw [hfirst, List.head?_cons]

theorem upToLabel_append {label : String} {shown older : List Change}
    (hsilent : ∀ c ∈ shown.dropLast, c.label? label = none)
    (hend : older = [] ∨ (lastLabel label shown).isSome) :
    upToLabel label (shown ++ older) = shown := by
  -- with nothing shown there was nothing to see, and the last change shown ends the search, by its label
  -- or because no other is left
  induction shown with
  | nil =>
    rcases hend with rfl | hend
    · rfl
    · cases hend
  | cons c rest ih =>
    cases rest with
    | nil =>
      rcases hend with rfl | hend
      · simp [upToLabel]
      · have hlabel : (c.label? label).isSome := hend
        simp [upToLabel, hlabel]
    | cons d more =>
      have hnone : c.label? label = none := hsilent c (by simp)
      rw [lastLabel_cons _ hnone] at hend
      have hrest := ih (fun e he => hsilent e (by simp [he])) hend
      rw [List.cons_append, upToLabel, hnone, Option.isSome_none, if_neg Bool.false_ne_true, hrest]

/-- There is just one way to search. -/
theorem Searched.eq_upToLabel {history : List Change} {ref label : String} {shown : List Change}
    (hs : Searched history ref label shown) :
    shown = upToLabel label (History.since history ref) := by
  obtain ⟨newer, older, hsplit, hnewer, hend⟩ := hs.cut
  obtain ⟨c, hfirst, href⟩ := hs.first
  obtain ⟨more, rfl⟩ : ∃ more, shown = c :: more := List.head?_eq_some_iff.1 hfirst
  have hsince : History.since history ref = c :: more ++ older :=
    since_eq_cons (by rw [hsplit, List.append_assoc]; rfl) hnewer href
  rw [hsince, upToLabel_append hs.silent hend]

theorem exec_findBaseline {h : Helper} {ref : String} (hknown : ∃ c ∈ h.history, c.ref = ref)
    (r : Run) :
    (findBaseline h ref).exec r =
      (.ok (lastLabel h.originLabel (upToLabel h.originLabel (History.since h.history ref))),
        r.record (visitsTo (upToLabel h.originLabel (History.since h.history ref)))) := by
  have hvisit : History.visit h.history ref (lookForLabel h.originLabel) =
      History.walk (lookForLabel h.originLabel) (History.since h.history ref) := by
    obtain ⟨newer, c, older, -, -, -, hsince⟩ := since_of_mem hknown
    rw [History.visit, hsince]
  rw [findBaseline, exec_bind_ok (exec_get r), hvisit, walk_lookForLabel]
  rfl

theorem exec_findBaseline_unknown {h : Helper} {ref : String}
    (hunknown : ∀ c ∈ h.history, c.ref ≠ ref) (r : Run) :
    (findBaseline h ref).exec r = (.error (.unknownReference ref), r) := by
  have hvisit : History.visit h.history ref (lookForLabel h.originLabel) =
      throw (.unknownReference ref) := by
    rw [History.visit, since_eq_nil hunknown]
  rw [findBaseline, exec_bind_ok (exec_get r), hvisit]
  rfl

/-! ## Going on -/

/-- The migrate call of a change request for a change on a baseline. -/
def requestCall (h : Helper) (c : Change) (baseline : String) : Call :=
  { ref := h.resolvedReference
    console := Helper.console
    metadata := c.metadata
    view := .computed ⟨[c], [], by simp⟩
    baseline := some baseline }

/-- What a change request reports that was written on a baseline. -/
def requestResult (h : Helper) (baseline : String) : Result :=
  { mode := .changeRequest
    migrated := [h.resolvedReference]
    baseline := some baseline
    completed := true }

/-- What a change request does on a baseline. -/
def requestOn (h : Helper) (baseline : String) : Act Result := do
  log .info Mode.changeRequest.component
    ("Using " ++ baseline ++ " as baseline for " ++ h.resolvedReference)
  let c ← settle (History.change h.history h.resolvedReference)
  let _ ← h.write (requestCall h c baseline)
  return requestResult h baseline

theorem changeRequest_eq (settings : Option Settings) (h : Helper) :
    changeRequest settings h = (do
      let options ← settle (optionsOf settings h)
      let baseline ← match usable options.changeBaseline with
        | some b => pure (some b)
        | none => usable <$> findBaseline h h.resolvedReference
      match baseline with
      | none => throw .noBaseline
      | some b => requestOn h b) := by
  rfl

/-- The record of the baseline that a run goes on with. -/
def announcement (h : Helper) (baseline : String) : Event :=
  .logged ⟨.info, some Mode.changeRequest.component,
    "Using " ++ baseline ++ " as baseline for " ++ h.resolvedReference⟩

theorem change_of_known {history : List Change} {ref : String}
    (hknown : history.any (·.ref == ref) = true) : ∃ c, History.change history ref = .ok c := by
  have hmem : ∃ c ∈ history, c.ref = ref := by simpa using hknown
  obtain ⟨newer, c, older, -, -, -, hsince⟩ := since_of_mem hmem
  exact ⟨c, by rw [History.change, hsince]⟩

theorem exec_announce (h : Helper) (baseline : String) (r : Run) :
    (log .info Mode.changeRequest.component
      ("Using " ++ baseline ++ " as baseline for " ++ h.resolvedReference)).exec r =
        (.ok (), r.record [announcement h baseline]) :=
  exec_log ..

theorem exec_requestOn_error {h : Helper} {why : Failure}
    (hchange : History.change h.history h.resolvedReference = .error why) (baseline : String) (r : Run) :
    (requestOn h baseline).exec r = (.error why, r.record [announcement h baseline]) := by
  rw [requestOn, exec_bind_ok (exec_announce ..), exec_bind_error (exec_settle_error hchange _)]

theorem exec_requestOn_ok {h : Helper} {c : Change}
    (hchange : History.change h.history h.resolvedReference = .ok c) (baseline : String) (r : Run) :
    let written := (h.write (requestCall h c baseline)).exec (r.record [announcement h baseline])
    (requestOn h baseline).exec r = (written.1.map fun _ => requestResult h baseline, written.2) := by
  intro written
  rw [requestOn, exec_bind_ok (exec_announce ..), exec_bind_ok (exec_settle_ok hchange _),
    ← map_eq_pure_bind, exec_map]

/-- The way in which a run ends that goes on with a baseline after it looked at some changes: it says
so, looks at no further change and makes its call, for which it needs the change of its reference, on
that baseline. It returns if the call does. -/
structure BasedOn (h : Helper) (run : Run) (shown : List Change) (baseline : String)
    (ended : Except Failure Result × Run) : Prop where
  log : ∃ later, ended.2.log = run.log ++ visitsTo shown ++ announcement h baseline :: later ∧
    visits later = [] ∧
    (Helper.calls later).map Call.baseline =
      if h.history.any (·.ref == h.resolvedReference) then [some baseline] else []
  result : ∀ result, ended.1 = .ok result → result.baseline = some baseline
  returns : h.history.any (·.ref == h.resolvedReference) = true →
    ∃ call : Call, call.baseline = some baseline ∧
      ended.1 = ((h.write call).exec (run.record (visitsTo shown ++ [announcement h baseline]))).1.map
        fun _ => requestResult h baseline

theorem basedOn_requestOn (h : Helper) (run : Run) (shown : List Change) (baseline : String) :
    BasedOn h run shown baseline ((requestOn h baseline).exec (run.record (visitsTo shown))) := by
  let before := run.record (visitsTo shown ++ [announcement h baseline])
  cases hany : h.history.any (·.ref == h.resolvedReference) with
  | false =>
    -- a baseline does not make up for a change that the history lacks
    rw [exec_requestOn_error (History.change_of_unknown (by simpa using hany)), record_record]
    refine ⟨⟨[], ?_, rfl, ?_⟩, ?_, ?_⟩
    · simp
    · simp [hany]
    · intro result hresult
      cases hresult
    · intro hknown
      rw [hany] at hknown
      cases hknown
  | true =>
    obtain ⟨c, hc⟩ := change_of_known hany
    obtain ⟨talk, hlog, htalk⟩ := write_exec_computed h (requestCall h c baseline) _ rfl before
    have hexec := exec_requestOn_ok hc baseline (run.record (visitsTo shown))
    rw [record_record] at hexec
    rw [hexec]
    refine ⟨⟨.migrate (requestCall h c baseline) :: talk, ?_, ?_, ?_⟩, ?_, ?_⟩
    · simp [hlog, before]
    · rw [visits_migrate, visits_talk htalk]
    · rw [calls_migrate, calls_talk htalk, hany]
      rfl
    · intro result hresult
      change ((h.write (requestCall h c baseline)).exec before).1.map _ = _ at hresult
      cases houtcome : ((h.write (requestCall h c baseline)).exec before).1 with
      | error why => simp [houtcome, Except.map] at hresult
      | ok answer =>
        rw [houtcome] at hresult
        cases hresult
        rfl
    · intro _
      exact ⟨requestCall h c baseline, rfl, rfl⟩

/-! ## Which baseline -/

theorem usable_of_ne {b : String} (hb : b ≠ "") : usable (some b) = some b := by
  simp [usable, Option.filter, hb]

theorem usable_of_empty {baseline : Option String} (hnone : baseline = none ∨ baseline = some "") :
    usable baseline = none := by
  rcases hnone with rfl | rfl <;> rfl

theorem exec_changeRequest_given {settings : Option Settings} {h : Helper}
    {options : Settings.Workflow} (hoptions : optionsOf settings h = .ok options) {b : String}
    (hgiven : options.changeBaseline = some b) (hb : b ≠ "") (run : Run) :
    (changeRequest settings h).exec run = (requestOn h b).exec run := by
  rw [changeRequest_eq, exec_bind_ok (exec_settle_ok hoptions run), hgiven, usable_of_ne hb]
  exact exec_bind_ok (exec_pure _ run) _

theorem exec_changeRequest_search {settings : Option Settings} {h : Helper}
    {options : Settings.Workflow} (hoptions : optionsOf settings h = .ok options)
    (hopen : options.changeBaseline = none ∨ options.changeBaseline = some "")
    (hknown : ∃ c ∈ h.history, c.ref = h.resolvedReference) (run : Run) :
    let shown := upToLabel h.originLabel (History.since h.history h.resolvedReference)
    (changeRequest settings h).exec run =
      match usable (lastLabel h.originLabel shown) with
      | none => (.error .noBaseline, run.record (visitsTo shown))
      | some b => (requestOn h b).exec (run.record (visitsTo shown)) := by
  intro shown
  have hfind : (usable <$> findBaseline h h.resolvedReference).exec run =
      (.ok (usable (lastLabel h.originLabel shown)), run.record (visitsTo shown)) := by
    rw [exec_map, exec_findBaseline hknown]
    rfl
  rw [changeRequest_eq, exec_bind_ok (exec_settle_ok hoptions run), usable_of_empty hopen]
  dsimp only
  rw [exec_bind_ok hfind]
  cases usable (lastLabel h.originLabel shown) with
  | none => rfl
  | some b => rfl

/-! ## Checked options -/

open Schema in
/-- A blank baseline does not survive a check. -/
theorem allBlank_of_checkBaseline {d : Data} {b : String}
    (hd : Settings.checkBaseline d = .ok (some b)) : Text.allBlank b = false := by
  rw [Settings.checkBaseline] at hd
  cases hread : readText? d with
  | error problems =>
    rw [hread] at hd
    cases hd
  | ok s =>
    rw [hread] at hd
    have hs : s.filter (fun b => !Text.allBlank b) = some b := Except.ok.inj hd
    obtain ⟨-, hb⟩ := Option.filter_eq_some_iff.1 hs
    simpa using hb

open Schema in
theorem changeBaseline_of_check {d : Data} {options : Settings.Workflow}
    (hd : Settings.Workflow.check d = .ok options) :
    options.changeBaseline = none ∨
      ∃ b, options.changeBaseline = some b ∧ Text.allBlank b = false ∧ b ≠ "" := by
  obtain ⟨entries, -, hread⟩ := record_eq_ok hd
  obtain ⟨mode, baseline, message, -, hbaseline, -, rfl⟩ := Checked.map3_eq_ok.1 hread
  cases baseline with
  | none => exact Or.inl rfl
  | some b =>
    rcases field_eq_ok hbaseline with ⟨d, -, hd⟩ | ⟨-, hdefault⟩
    · have hblank := allBlank_of_checkBaseline hd
      refine Or.inr ⟨b, rfl, hblank, ?_⟩
      rintro rfl
      cases hblank
    · cases hdefault

/-- **The baseline of a change request.** One that the options name is taken without a look at any
change. Otherwise the changes from the most recent one with the resolved reference on are looked at up
to the first that carries the label, and its label is the baseline; where that is empty, or no change
carries the label, the run ends without a call. Options that were checked name no blank baseline. -/
theorem changeRequest_baseline (settings : Option Settings) (h : Helper) (run : Run)
    (options : Settings.Workflow) (hoptions : optionsOf settings h = .ok options) :
    (∀ b, options.changeBaseline = some b → b ≠ "" →
      BasedOn h run [] b ((changeRequest settings h).exec run)) ∧
    (options.changeBaseline = none ∨ options.changeBaseline = some "" →
      (∃ c ∈ h.history, c.ref = h.resolvedReference) →
      (∃ shown, Searched h.history h.resolvedReference h.originLabel shown) ∧
      ∀ shown, Searched h.history h.resolvedReference h.originLabel shown →
        (∀ b, lastLabel h.originLabel shown = some b → b ≠ "" →
          BasedOn h run shown b ((changeRequest settings h).exec run)) ∧
        (lastLabel h.originLabel shown = none ∨ lastLabel h.originLabel shown = some "" →
          (changeRequest settings h).exec run = (.error .noBaseline, run.record (visitsTo shown)) ∧
            Failure.noBaseline.kind = .precondition)) ∧
    (∀ d, Settings.Workflow.check d = .ok options → options.changeBaseline = none ∨
      ∃ b, options.changeBaseline = some b ∧ Text.allBlank b = false ∧ b ≠ "") := by
  refine ⟨?_, ?_, fun d hd => changeBaseline_of_check hd⟩
  · intro b hgiven hb
    have hbased := basedOn_requestOn h run [] b
    rw [visitsTo, List.map_nil, record_nil] at hbased
    rw [exec_changeRequest_given hoptions hgiven hb]
    exact hbased
  · intro hopen hknown
    have hexec := exec_changeRequest_search hoptions hopen hknown run
    refine ⟨⟨_, searched_upToLabel hknown h.originLabel⟩, ?_⟩
    intro shown hsearched
    rw [← hsearched.eq_upToLabel] at hexec
    refine ⟨?_, ?_⟩
    · intro b hlabel hb
      rw [hexec, hlabel, usable_of_ne hb]
      exact basedOn_requestOn h run shown b
    · intro hnone
      rw [hexec, usable_of_empty hnone]
      exact ⟨rfl, rfl⟩

/-- The label of the change below the tip is the baseline, whatever an older change is labelled. -/
theorem changeRequest_baseline_below_tip :
    let labelled := fun ref value => { bareChange ref with labels := [("origin-ref", value)] }
    let h := scriptedHelper [labelled "old" "o1", labelled "mid" "o2", bareChange "tip"] fun _ =>
      .finish (.ok .ok)
    BasedOn h {} [bareChange "tip", labelled "mid" "o2"] "o2" ((changeRequest none h).exec {}) := by
  intro labelled h
  have hhistory : h.history = [bareChange "tip", labelled "mid" "o2", labelled "old" "o1"] := rfl
  have hknown : ∃ c ∈ h.history, c.ref = h.resolvedReference :=
    ⟨bareChange "tip", by simp [hhistory], rfl⟩
  have hsearched : Searched h.history h.resolvedReference h.originLabel
      [bareChange "tip", labelled "mid" "o2"] := by
    refine ⟨⟨[], [labelled "old" "o1"], hhistory, by simp, Or.inr rfl⟩, ⟨_, rfl, rfl⟩, ?_⟩
    simp only [List.dropLast, List.mem_singleton, forall_eq]
    rfl
  have hall := (changeRequest_baseline none h {} {} rfl).2.1 (Or.inl rfl) hknown
  exact (hall.2 _ hsearched).1 "o2" rfl (by decide)

end Transplant.Workflow
