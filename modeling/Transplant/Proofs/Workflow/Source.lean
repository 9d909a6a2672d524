import Transplant.Proofs.Workflow.Squash

/-!
# Every run has one source of options

The options and the default author come from the settings of a run or, where it has none, from its helper, and
never from both. A squash takes its message and its author from there, a change request the baseline that it
is told to use, and an iterative run nothing.

Main statement: `run_has_one_source`, on two runs that differ in what the helper itself would supply.
-/

namespace Transplant.Workflow

/-! ## Helpers that supply something else -/

/-- The helper with options and a default author of its own in place of those that it has. -/
def Helper.supplying (h : Helper) (options : Except Failure Settings.Workflow)
    (author : Except Failure Author) : Helper :=
  { h with options := options, defaultAuthor := author }

/-- What a helper supplies does not count for how it behaves. -/
theorem Agree.supplying (P : Event → Bool) (base : List Event) (h : Helper)
    (options : Except Failure Settings.Workflow) (author : Except Failure Author) :
    Agree P base base (h.supplying options author) h :=
  ⟨rfl, rfl, rfl, fun _ _ => rfl, fun _ _ => rfl⟩

/-- Two steps that do the same from a state, both with its log behind them, have the same outcome and leave
the same state behind. -/
theorem Alike.exec_eq {α : Type} {P : Event → Bool} {act act' : Act α} {r : Run}
    (halike : Alike (Beside P r.log r.log) act act') : act.exec r = act'.exec r := by
  obtain ⟨houtcome, hbeside⟩ := halike r r (.start rfl rfl)
  obtain ⟨events, hlog, hlog', -⟩ := hbeside.log
  have hafter := hbeside.eq_withLog
  rw [hlog, ← hlog'] at hafter
  exact Prod.ext houtcome hafter

/-- With settings it does not matter which helper there is. -/
theorem SameSource.of_settings (mode : Mode) (own : Settings) (h h' : Helper) :
    SameSource mode (some own) h (some own) h' :=
  .of_eq rfl rfl mode

/-- A helper that supplies what settings say is as good a source as they are. -/
theorem SameSource.of_supplied (mode : Mode) (own : Settings) (h : Helper) :
    SameSource mode none (h.supplying (configuredOptions own) (configuredAuthor own)) (some own) h :=
  .of_eq rfl rfl mode

variable {mode : Mode} {settings settings' : Option Settings} {h : Helper}
  {options : Except Failure Settings.Workflow} {author : Except Failure Author}

theorem exec_runMode_supplying
    (hsource : SameSource mode settings (h.supplying options author) settings' h) (run : Run) :
    (runMode mode settings (h.supplying options author)).exec run = (runMode mode settings' h).exec run :=
  Alike.exec_eq ((Agree.supplying _ _ h options author).runMode_of_sameSource hsource)

/-- Engines that select the same mode run it alike if it takes the same from their settings. -/
theorem exec_engine_supplying {own own' : Settings} {name name' : Option String}
    (hselect : Engine.select own name = .ok mode) (hselect' : Engine.select own' name' = .ok mode)
    (hsource : SameSource mode (some own) (h.supplying options author) (some own') h) (run : Run) :
    (Engine.run own (h.supplying options author) name).exec run = (Engine.run own' h name').exec run := by
  rw [exec_engine hselect, exec_engine hselect', exec_runMode_supplying hsource]

/-- An engine does not look at what the helper supplies, whether it selects a mode or not. -/
theorem exec_engine_of_settings (own : Settings) (name : Option String) (h : Helper)
    (options : Except Failure Settings.Workflow) (author : Except Failure Author) (run : Run) :
    (Engine.run own (h.supplying options author) name).exec run = (Engine.run own h name).exec run := by
  cases hselect : Engine.select own name with
  | ok mode => exact exec_engine_supplying hselect hselect (.of_settings mode own _ h) run
  | error why =>
    rw [Engine.run, Engine.run, exec_bind_error (exec_settle_error hselect run),
      exec_bind_error (exec_settle_error hselect run)]

/-! ## What a run takes -/

theorem calls_inner {events : List Event} (hinner : ∀ e ∈ events, e.isInner) :
    Helper.calls events = [] := by
  refine List.filterMap_eq_nil_iff.2 fun e he => ?_
  have := hinner e he
  cases e <;> simp_all [Event.isInner, Event.isTalk]

/-- A migrate call makes no other one, whatever view it is given. -/
theorem since_write (h : Helper) (call : Call) (r : Run) :
    ∃ requests, Since r ((h.write call).exec r).2 requests [call] := by
  let called := r.record [.migrate call]
  have hagree := Agree.refl Event.isInner called.log h
  obtain ⟨-, hafter⟩ :=
    hagree.perform (fun _ he => he) call (h.migrate r.log call) called called (.start rfl rfl)
  obtain ⟨events, hlog, -, hinner⟩ := hafter.log
  refine ⟨_, .migrate call :: events, ?_, rfl, ?_⟩
  · rw [exec_write, hlog, record_log, List.append_assoc, List.singleton_append]
  · rw [calls_migrate, calls_inner hinner]

/-- What the run of a mode takes from the options and the default author in force, told by how it ends. A squash makes
its call with the message and the author that they name, and a change request takes the baseline that they name; where
there are none it ends with the reason. -/
structure Draws (mode : Mode) (options : Except Failure Settings.Workflow) (author : Except Failure Author) (h : Helper)
    (run : Run) (ended : Except Failure Result × Run) : Prop where
  message_author : ∀ o a, options = .ok o → author = .ok a → mode = .squash →
    ∃ requests, Since run ended.2 requests [squashCall h ⟨o.squashMessage, a⟩]
  baseline : ∀ o b, options = .ok o → o.changeBaseline = some b → b ≠ "" → mode = .changeRequest →
    BasedOn h run [] b ended
  no_options : ∀ why, options = .error why →
    (mode = .squash → ended = (.error why, run.record [squashRecord h])) ∧
      (mode = .changeRequest → ended = (.error why, run))
  no_author : ∀ o why, options = .ok o → author = .error why → mode = .squash →
    ended = (.error why, run.record [squashRecord h])

theorem since_squash {metadata : Metadata} (hmetadata : squashMetadata settings h = .ok metadata)
    (run : Run) :
    ∃ requests, Since run ((squash settings h).exec run).2 requests [squashCall h metadata] := by
  let begun := run.record [squashRecord h]
  have hbegun : Since run begun 0 [] := .quiet run (by simp [squashRecord, Event.isQuiet])
  obtain ⟨requests, hwritten⟩ := since_write h (squashCall h metadata) begun
  have hexec : ((squash settings h).exec run).2 = ((h.write (squashCall h metadata)).exec begun).2 := by
    rw [exec_squash, exec_bind_ok (exec_settle_ok hmetadata _), exec_map]
  exact ⟨_, hexec ▸ hbegun.trans hwritten⟩

theorem draws (mode : Mode) (settings : Option Settings) (h : Helper) (run : Run) :
    Draws mode (optionsOf settings h) (authorOf settings h) h run ((runMode mode settings h).exec run) where
  message_author o a hoptions hauthor hmode := by
    subst hmode
    refine since_squash ?_ run
    rw [squashMetadata, hoptions, hauthor]
    rfl
  baseline o b hoptions hgiven hb hmode := by
    subst hmode
    have hbased := basedOn_requestOn h run [] b
    rw [visitsTo, List.map_nil, record_nil] at hbased
    rw [runMode, exec_changeRequest_given hoptions hgiven hb]
    exact hbased
  no_options why hoptions := by
    refine ⟨fun hmode => ?_, fun hmode => ?_⟩
    · subst hmode
      refine exec_squash_error ?_ run
      rw [squashMetadata, hoptions]
      rfl
    · subst hmode
      exact exec_bind_error (exec_settle_error hoptions run) _
  no_author o why hoptions hauthor hmode := by
    subst hmode
    refine exec_squash_error ?_ run
    rw [squashMetadata, hoptions, hauthor]
    rfl

/-! ## One source -/

/-- **Every run has one source of options.** With settings, given to a mode or to an engine, which without any
has the standard ones, what the helper supplies does not count, not even where it would fail. Without settings
the helper alone is the source: a run is the one that settings with the same options and author have. From
that source a run takes what `Draws` says, which for a run of an engine is told of what lies between its two records; an
iterative run takes nothing, and a change request only the baseline. -/
theorem run_has_one_source (h : Helper) (run : Run) :
    (∀ (own : Settings) (mode : Mode) options author,
      (runMode mode (some own) (h.supplying options author)).exec run =
        (runMode mode (some own) h).exec run) ∧
    (∀ (configured : Option Settings) (name : Option String) options author,
      (Engine.run (configured.getD {}) (h.supplying options author) name).exec run =
        (Engine.run (configured.getD {}) h name).exec run) ∧
    (∀ (own : Settings) (mode : Mode),
      (runMode mode none (h.supplying (configuredOptions own) (configuredAuthor own))).exec run =
        (runMode mode (some own) h).exec run) ∧
    (∀ mode settings,
      Draws mode (optionsOf settings h) (authorOf settings h) h run ((runMode mode settings h).exec run)) ∧
    (∀ (configured : Option Settings) name mode, Engine.select (configured.getD {}) name = .ok mode →
      let own := configured.getD {}
      ∃ ended, Draws mode (configuredOptions own) (configuredAuthor own) h (run.record [opening mode]) ended ∧
        (Engine.run own h name).exec run = (ended.1, ended.2.record (closing mode ended.1))) ∧
    (∀ settings settings' options author,
      (runMode .iterative settings (h.supplying options author)).exec run =
        (runMode .iterative settings' h).exec run) ∧
    ∀ settings settings' options author,
      (optionsOf settings (h.supplying options author)).map (·.changeBaseline) =
        (optionsOf settings' h).map (·.changeBaseline) →
      (runMode .changeRequest settings (h.supplying options author)).exec run =
        (runMode .changeRequest settings' h).exec run := by
  refine ⟨?_, ?_, ?_, ?_, ?_, ?_, ?_⟩
  · intro own mode options author
    exact exec_runMode_supplying (.of_settings mode own _ h) run
  · intro configured name options author
    exact exec_engine_of_settings _ name h options author run
  · intro own mode
    exact exec_runMode_supplying (.of_supplied mode own h) run
  · intro mode settings
    exact draws mode settings h run
  · intro configured name mode hselect own
    exact ⟨_, draws mode (some own) h (run.record [opening mode]), exec_engine hselect h run⟩
  · intro settings settings' options author
    have hsource : SameSource .iterative settings (h.supplying options author) settings' h := trivial
    exact exec_runMode_supplying hsource run
  · intro settings settings' options author hbaseline
    have hsource : SameSource .changeRequest settings (h.supplying options author) settings' h := hbaseline
    exact exec_runMode_supplying hsource run

/-- A helper without a default author that names a baseline, and settings that name the same one, in a run of the mode
and in one of an engine. -/
theorem changeRequest_on_either_base :
    let h := scriptedHelper [bareChange "tip"] fun _ => .finish (.ok .ok)
    let supplied := h.supplying (.ok { changeBaseline := some "base", squashMessage := "all" })
      (.error (.refused (.malformedIdentity "nobody")))
    let settings : Settings := { workflow := { changeBaseline := some "base" } }
    let ended := (runMode .changeRequest none supplied).exec {}
    ended = (runMode .changeRequest (some settings) h).exec {} ∧ BasedOn supplied {} [] "base" ended ∧
      ∃ framed, BasedOn h (Run.record {} [opening .changeRequest]) [] "base" framed ∧
        (Engine.run settings h (some "Change_Request")).exec {} =
          (framed.1, framed.2.record (closing .changeRequest framed.1)) := by
  intro h supplied settings ended
  obtain ⟨-, -, -, -, hengine, -, hrequest⟩ := run_has_one_source h {}
  obtain ⟨-, -, -, hdraws, -⟩ := run_has_one_source supplied {}
  have hselect : Engine.select settings (some "Change_Request") = .ok .changeRequest :=
    select_of_name (by decide +kernel)
  obtain ⟨framed, hframed, hrun⟩ := hengine (some settings) (some "Change_Request") .changeRequest hselect
  refine ⟨hrequest none (some settings) _ _ rfl, ?_, framed, ?_, hrun⟩
  · exact (hdraws .changeRequest none).baseline _ "base" rfl rfl (by decide) rfl
  · exact hframed.baseline _ "base" rfl rfl (by decide) rfl

end Transplant.Workflow
