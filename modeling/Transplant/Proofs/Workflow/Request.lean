import Transplant.Proofs.Workflow.Baseline

/-!
# A change request is all or nothing

A change request makes one call or none. It makes one when the history knows its reference and there is a
baseline to go on with; that call is the last thing it does, and as the call ends so does the run. In every
other case it fails without a call, for an unknown reference even where the options name a baseline.

Main statement: `changeRequest_all_or_nothing`.
-/

namespace Transplant.Workflow

open History (IsLatest exists_isLatest)

variable {h : Helper} {options : Settings.Workflow} {shown : List Change} {b : String} {c : Change}

/-! ## Baselines -/

/-- A baseline that a change request goes on with, and the changes that it looked at for it: the options
name it, or a search finds it. An empty one is none. -/
inductive Resolved (h : Helper) (options : Settings.Workflow) : List Change → String → Prop
  | given {b : String} (hgiven : options.changeBaseline = some b) (hb : b ≠ "") :
      Resolved h options [] b
  | found {shown : List Change} {b : String}
      (hopen : options.changeBaseline = none ∨ options.changeBaseline = some "")
      (hsearched : Searched h.history h.resolvedReference h.originLabel shown)
      (hlabel : lastLabel h.originLabel shown = some b) (hb : b ≠ "") :
      Resolved h options shown b

/-- The options name a baseline, or they leave it to a search. -/
theorem given_or_open (options : Settings.Workflow) :
    (∃ b, options.changeBaseline = some b ∧ b ≠ "") ∨
      (options.changeBaseline = none ∨ options.changeBaseline = some "") := by
  cases options.changeBaseline with
  | none => exact Or.inr (Or.inl rfl)
  | some b =>
    by_cases hb : b = ""
    · exact Or.inr (Or.inr (congrArg some hb))
    · exact Or.inl ⟨b, rfl, hb⟩

theorem exec_changeRequest_resolved {settings : Option Settings}
    (hoptions : optionsOf settings h = .ok options)
    (hknown : ∃ c ∈ h.history, c.ref = h.resolvedReference) (hresolved : Resolved h options shown b)
    (run : Run) :
    (changeRequest settings h).exec run = (requestOn h b).exec (run.record (visitsTo shown)) := by
  cases hresolved with
  | given hgiven hb =>
    rw [exec_changeRequest_given hoptions hgiven hb, visitsTo, List.map_nil, record_nil]
  | found hopen hsearched hlabel hb =>
    have hexec := exec_changeRequest_search hoptions hopen hknown run
    rw [← hsearched.eq_upToLabel] at hexec
    rw [hexec, hlabel, usable_of_ne hb]

theorem isQuiet_visitsTo (shown : List Change) : ∀ e ∈ visitsTo shown, e.isQuiet := by
  intro e he
  obtain ⟨c, -, rfl⟩ := List.mem_map.1 he
  rfl

theorem isQuiet_announcement (h : Helper) (b : String) : ∀ e ∈ [announcement h b], e.isQuiet := by
  simp [announcement, Event.isQuiet]

/-- Without a baseline to go on with, a search ends the run. -/
theorem exec_changeRequest_unresolved {settings : Option Settings}
    (hoptions : optionsOf settings h = .ok options)
    (hknown : ∃ c ∈ h.history, c.ref = h.resolvedReference)
    (hunresolved : ¬ ∃ shown b, Resolved h options shown b) (run : Run) :
    ∃ shown, (changeRequest settings h).exec run = (.error .noBaseline, run.record (visitsTo shown)) := by
  rcases given_or_open options with ⟨b, hgiven, hb⟩ | hopen
  · exact absurd ⟨[], b, .given hgiven hb⟩ hunresolved
  · let shown := upToLabel h.originLabel (History.since h.history h.resolvedReference)
    have hsearched : Searched h.history h.resolvedReference h.originLabel shown :=
      searched_upToLabel hknown h.originLabel
    have hnone : lastLabel h.originLabel shown = none ∨ lastLabel h.originLabel shown = some "" := by
      by_contra hlabel
      obtain ⟨hne, hempty⟩ := not_or.1 hlabel
      obtain ⟨b, hb⟩ := Option.ne_none_iff_exists'.1 hne
      refine hunresolved ⟨_, b, .found hopen hsearched hb ?_⟩
      rintro rfl
      exact hempty hb
    refine ⟨shown, ?_⟩
    rw [exec_changeRequest_search hoptions hopen hknown run, usable_of_empty hnone]

/-- The history has to know the reference, whether the options name a baseline or not. -/
theorem exec_changeRequest_unknown {settings : Option Settings}
    (hoptions : optionsOf settings h = .ok options)
    (hunknown : ∀ c ∈ h.history, c.ref ≠ h.resolvedReference) (run : Run) :
    ∃ said, (∀ e ∈ said, e.isQuiet) ∧
      (changeRequest settings h).exec run =
        (.error (.unknownReference h.resolvedReference), run.record said) := by
  rcases given_or_open options with ⟨b, hgiven, hb⟩ | hopen
  · refine ⟨[announcement h b], isQuiet_announcement h b, ?_⟩
    rw [exec_changeRequest_given hoptions hgiven hb]
    exact exec_requestOn_error (History.change_of_unknown hunknown) b run
  · refine ⟨[], by simp, ?_⟩
    have hfind : (usable <$> findBaseline h h.resolvedReference).exec run =
        (.error (.unknownReference h.resolvedReference), run) := by
      rw [exec_map, exec_findBaseline_unknown hunknown]
      rfl
    rw [changeRequest_eq, exec_bind_ok (exec_settle_ok hoptions run), usable_of_empty hopen]
    dsimp only
    rw [exec_bind_error hfind, record_nil]

/-! ## The call -/

/-- The end of a change request that makes its call, for the most recent change of its reference and on a
baseline, after it looked at some changes and said so. The call has the data of that change and sees it
alone; what the call leaves behind is what the run leaves behind. -/
structure Requested (h : Helper) (run : Run) (shown : List Change) (b : String) (c : Change) (call : Call)
    (ended : Except Failure Result × Run) : Prop where
  ref_eq : call.ref = h.resolvedReference
  console_eq : call.console = .base ()
  metadata_eq : call.metadata = ⟨c.message, c.author⟩
  view_eq : ∃ view, call.view = .computed view ∧ view.current = [c] ∧ view.migrated = []
  baseline_eq : call.baseline = some b
  since : Since run ended.2 0 [call]
  returns : ∀ answer final,
    (h.write call).exec (run.record (visitsTo shown ++ [announcement h b])) = (.ok answer, final) →
      ended = (.ok { mode := .changeRequest, migrated := [h.resolvedReference], skippedEmpty := [],
                     baseline := some b, completed := true }, final)
  fails : ∀ why final,
    (h.write call).exec (run.record (visitsTo shown ++ [announcement h b])) = (.error why, final) →
      ended = (.error why, final)

theorem requested_of_latest (hc : IsLatest h.history h.resolvedReference c) (run : Run)
    (shown : List Change) (b : String) :
    Requested h run shown b c (requestCall h c b)
      ((requestOn h b).exec (run.record (visitsTo shown))) := by
  let before := run.record (visitsTo shown ++ [announcement h b])
  have hexec := exec_requestOn_ok hc.change_eq b (run.record (visitsTo shown))
  rw [record_record] at hexec
  have hbefore : Since run before 0 [] :=
    .quiet run (List.forall_mem_append.2 ⟨isQuiet_visitsTo shown, isQuiet_announcement h b⟩)
  rw [hexec]
  refine ⟨rfl, rfl, rfl, ⟨_, rfl, rfl, rfl⟩, rfl, hbefore.trans (Since.write rfl before), ?_, ?_⟩
  · intro answer final hwritten
    rw [hwritten]
    rfl
  · intro why final hwritten
    rw [hwritten]
    rfl

theorem requested_of_resolved {settings : Option Settings} (hoptions : optionsOf settings h = .ok options)
    (hresolved : Resolved h options shown b) (hc : IsLatest h.history h.resolvedReference c) (run : Run) :
    ∃ call, Requested h run shown b c call ((changeRequest settings h).exec run) := by
  rw [exec_changeRequest_resolved hoptions hc.known hresolved run]
  exact ⟨_, requested_of_latest hc run shown b⟩

/-! ## No call -/

theorem silent_of_unknown {settings : Option Settings} (hoptions : optionsOf settings h = .ok options)
    (hunknown : ∀ c ∈ h.history, c.ref ≠ h.resolvedReference) (run : Run) :
    let ended := (changeRequest settings h).exec run
    Since run ended.2 0 [] ∧ ended.1 = .error (.unknownReference h.resolvedReference) := by
  intro ended
  obtain ⟨said, hquiet, hexec⟩ := exec_changeRequest_unknown hoptions hunknown run
  rw [show ended = _ from hexec]
  exact ⟨.quiet run hquiet, rfl⟩

theorem silent_of_unresolved {settings : Option Settings} (hoptions : optionsOf settings h = .ok options)
    (hknown : ∃ c ∈ h.history, c.ref = h.resolvedReference)
    (hunresolved : ¬ ∃ shown b, Resolved h options shown b) (run : Run) :
    let ended := (changeRequest settings h).exec run
    Since run ended.2 0 [] ∧ ended.1 = .error .noBaseline := by
  intro ended
  obtain ⟨shown, hexec⟩ := exec_changeRequest_unresolved hoptions hknown hunresolved run
  rw [show ended = _ from hexec]
  exact ⟨.quiet run (isQuiet_visitsTo shown), rfl⟩

/-! ## All or nothing -/

/-- There is one call if the history knows the reference and there is a baseline, and otherwise none. -/
theorem exists_made {settings : Option Settings} (hoptions : optionsOf settings h = .ok options) (run : Run) :
    ∃ made, Since run ((changeRequest settings h).exec run).2 0 made ∧ made.length ≤ 1 ∧
      (made.length = 1 ↔ (∃ c ∈ h.history, c.ref = h.resolvedReference) ∧
        ∃ shown b, Resolved h options shown b) := by
  by_cases hknown : ∃ c ∈ h.history, c.ref = h.resolvedReference
  · by_cases hresolved : ∃ shown b, Resolved h options shown b
    · obtain ⟨shown, b, hbaseline⟩ := hresolved
      obtain ⟨c, hc⟩ := exists_isLatest hknown
      obtain ⟨call, hrequested⟩ := requested_of_resolved hoptions hbaseline hc run
      exact ⟨[call], hrequested.since, by simp, by simpa using ⟨hknown, shown, b, hbaseline⟩⟩
    · exact ⟨[], (silent_of_unresolved hoptions hknown hresolved run).1, by simp, by simp [hresolved]⟩
  · have hunknown : ∀ c ∈ h.history, c.ref ≠ h.resolvedReference :=
      fun c hc href => hknown ⟨c, hc, href⟩
    exact ⟨[], (silent_of_unknown hoptions hunknown run).1, by simp, by simp [hknown]⟩

/-- **A change request is all or nothing.** If the history knows its reference and there is a baseline to go
on with, it makes its one call, for the most recent change of that reference, and ends as the call does.
Otherwise it makes none: it fails for an unknown reference, or for want of a baseline. -/
theorem changeRequest_all_or_nothing (settings : Option Settings) (h : Helper) (run : Run) :
    let ended := (changeRequest settings h).exec run
    (∀ why, optionsOf settings h = .error why → ended = (.error why, run)) ∧
    ∀ options, optionsOf settings h = .ok options →
      (∃ made, Since run ended.2 0 made ∧ made.length ≤ 1 ∧
        (made.length = 1 ↔ (∃ c ∈ h.history, c.ref = h.resolvedReference) ∧
          ∃ shown b, Resolved h options shown b)) ∧
      (∀ shown b c, Resolved h options shown b → IsLatest h.history h.resolvedReference c →
        ∃ call, Requested h run shown b c call ended) ∧
      ((∀ c ∈ h.history, c.ref ≠ h.resolvedReference) →
        Since run ended.2 0 [] ∧ ended.1 = .error (.unknownReference h.resolvedReference) ∧
          (Failure.unknownReference h.resolvedReference).kind = .repository) ∧
      ((∃ c ∈ h.history, c.ref = h.resolvedReference) → (¬ ∃ shown b, Resolved h options shown b) →
        Since run ended.2 0 [] ∧ ended.1 = .error .noBaseline ∧
          Failure.noBaseline.kind = .precondition) := by
  intro ended
  refine ⟨?_, ?_⟩
  · intro why hwhy
    exact exec_bind_error (exec_settle_error hwhy run) _
  · intro options hoptions
    refine ⟨exists_made hoptions run, ?_, ?_, ?_⟩
    · intro shown b c hresolved hc
      exact requested_of_resolved hoptions hresolved hc run
    · intro hunknown
      obtain ⟨hsince, houtcome⟩ := silent_of_unknown hoptions hunknown run
      exact ⟨hsince, houtcome, rfl⟩
    · intro hknown hunresolved
      obtain ⟨hsince, houtcome⟩ := silent_of_unresolved hoptions hknown hunresolved run
      exact ⟨hsince, houtcome, rfl⟩

/-- A call that turns out empty fails the run, on a baseline that the options name. -/
theorem changeRequest_empty_on_given_base :
    let settings : Settings := { workflow := { changeBaseline := some "base" } }
    let h := scriptedHelper [bareChange "tip"] fun _ => .finish (.error (.raised .emptyChange "no delta"))
    let ended := (changeRequest (some settings) h).exec {}
    ended.1 = .error (.raised .emptyChange "no delta") ∧
      ∃ call, Since {} ended.2 0 [call] ∧ call.baseline = some "base" := by
  intro settings h ended
  obtain ⟨call, hrequested⟩ := ((changeRequest_all_or_nothing (some settings) h {}).2 _ rfl).2.1 []
    "base" (bareChange "tip") (.given rfl (by decide)) ⟨[], [], rfl, by simp, rfl⟩
  have hended := hrequested.fails _ _ rfl
  exact ⟨congrArg Prod.fst hended, call, hrequested.since, hrequested.baseline_eq⟩

end Transplant.Workflow
