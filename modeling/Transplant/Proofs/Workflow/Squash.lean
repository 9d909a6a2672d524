import Transplant.Proofs.Workflow.Engine

/-!
# A squash takes a history that cannot be resolved for an empty one

The call of a squash gets a deferred view, so the history is asked for only when that view is read, within the
call or later. A history that cannot be resolved then shows as an empty one does. The run tells of it once,
right after the request; nothing else in it differs.

`Degraded` relates two such runs from step to step, `Degraded.observe` does so for a read of the view. Main
statement: `squash_degrades`.
-/

namespace Transplant.Workflow

/-! ## The call of a squash -/

/-- The message and the author of a squash. -/
def squashMetadata (settings : Option Settings) (h : Helper) : Except Failure Metadata := do
  let options ← optionsOf settings h
  let author ← authorOf settings h
  return ⟨options.squashMessage, author⟩

/-- The call that a squash makes. -/
def squashCall (h : Helper) (metadata : Metadata) : Call :=
  { ref := h.resolvedReference
    console := .base ()
    metadata := metadata
    view := .deferred
    baseline := none }

/-- The result of a squash whose call returns. -/
def squashResult (h : Helper) : Result :=
  { mode := .squash, migrated := [h.resolvedReference], completed := true }

/-- The record with which a squash begins. -/
def squashRecord (h : Helper) : Event :=
  .logged ⟨.info, some Mode.squash.component, "Squashing changes up to " ++ h.resolvedReference⟩

variable {settings : Option Settings} {h : Helper}

theorem exec_squash (settings : Option Settings) (h : Helper) (r : Run) :
    (squash settings h).exec r =
      ((settle (squashMetadata settings h)) >>= fun metadata =>
        (fun _ => squashResult h) <$> h.write (squashCall h metadata)).exec (r.record [squashRecord h]) := by
  rw [squash, exec_bind_ok (exec_log ..), squashMetadata]
  cases optionsOf settings h with
  | error why => rfl
  | ok options =>
    cases authorOf settings h with
    | error why => rfl
    | ok author => rfl

theorem exec_squash_error {why : Failure} (hmetadata : squashMetadata settings h = .error why) (r : Run) :
    (squash settings h).exec r = (.error why, r.record [squashRecord h]) := by
  rw [exec_squash, exec_bind_error (exec_settle_error hmetadata _)]

theorem exec_squash_ok {metadata : Metadata} (hmetadata : squashMetadata settings h = .ok metadata)
    (r : Run) :
    let call := squashCall h metadata
    let program := h.migrate (r.record [squashRecord h]).log call
    (squash settings h).exec r =
      ((fun _ => squashResult h) <$> h.perform call program).exec
        (r.record [squashRecord h, .migrate call]) := by
  intro call program
  rw [exec_squash, exec_bind_ok (exec_settle_ok hmetadata _), exec_map, exec_write, exec_map, record_record]
  rfl

/-! ## Two histories -/

/-- A helper whose history cannot be resolved, for a reason that may depend on what happened before. -/
def Helper.unresolved (h : Helper) (why : List Event → Failure) : Helper :=
  { h with changesSinceLastImport := fun events => .error (why events) }

/-- A helper with an empty history. -/
def Helper.unchanged (h : Helper) : Helper :=
  { h with changesSinceLastImport := fun _ => .ok [] }

/-- Some events without a request for the history and without a read of current changes, and the calls among
them. -/
structure Unread (events : List Event) (made : List Call) : Prop where
  requests_eq : historyRequests events = 0
  not_read : ∀ answer, .read .current answer ∉ events
  calls_eq : Helper.calls events = made

theorem Unread.append {es fs : List Event} {made later : List Call} (hes : Unread es made)
    (hfs : Unread fs later) : Unread (es ++ fs) (made ++ later) where
  requests_eq := by rw [historyRequests_append, hes.requests_eq, hfs.requests_eq]
  not_read answer := by simp [hes.not_read answer, hfs.not_read answer]
  calls_eq := by rw [calls_append, hes.calls_eq, hfs.calls_eq]

/-- Whether an event is neither a call nor a request for the history nor a read of current changes. -/
def Event.isAside : Event → Bool
  | .read .current _ => false
  | e => e.isQuiet

theorem Event.isQuiet_of_isAside {e : Event} (haside : e.isAside) : e.isQuiet := by
  cases e <;> simp_all [Event.isAside, Event.isQuiet]

theorem unread_of_isAside {events : List Event} (haside : ∀ e ∈ events, e.isAside) : Unread events [] where
  requests_eq := historyRequests_quiet fun e he => Event.isQuiet_of_isAside (haside e he)
  not_read answer hread := by simpa [Event.isAside] using haside _ hread
  calls_eq := calls_quiet fun e he => Event.isQuiet_of_isAside (haside e he)

theorem Unread.append_aside {es fs : List Event} {made : List Call} (hes : Unread es made)
    (haside : ∀ e ∈ fs, e.isAside) : Unread (es ++ fs) made := by
  simpa using hes.append (unread_of_isAside haside)

/-- The warning of a view that first asks for the history after some events. -/
def warningAfter (why : List Event → Failure) (events : List Event) : String :=
  Helper.unresolvedWarning (why (events ++ [.history]))

/-- How a run that has told that its history cannot be resolved stands to the run that found it empty. Both
asked when the current changes were first read and showed none; but for the warning, which was told right
then, they recorded the same before and since, and they ask no more. -/
structure Parted (why : List Event → Failure) (run : Run) (made : List Call) (before after : List Event)
    (r r' : Run) : Prop where
  unread : Unread before made
  log_eq : r.log = run.log ++ before ++ .history ::
    (tidings (some (warningAfter why (run.log ++ before))) ++ .read .current (.ok []) :: after)
  log_eq' : r'.log = run.log ++ before ++ .history :: .read .current (.ok []) :: after
  quiet : ∀ e ∈ after, e.isQuiet
  answers_eq : r.answers = r'.answers
  cell_eq : r.cell = .settled [] (some (warningAfter why (run.log ++ before)))
  cell_eq' : r'.cell = .settled [] none

/-- How a run whose history cannot be resolved stands to the run with an empty history, after the same calls:
they are the same up to the first read of the current changes, at which they part. -/
inductive Degraded (why : List Event → Failure) (run : Run) (made : List Call) : Run → Run → Prop
  | unread {r : Run} {before : List Event} (hlog : r.log = run.log ++ before) (hbefore : Unread before made)
      (hcell : r.cell = .unsettled) : Degraded why run made r r
  | read {r r' : Run} {before after : List Event} (hparted : Parted why run made before after r r') :
      Degraded why run made r r'

variable {why : List Event → Failure} {run : Run} {made : List Call} {r r' : Run}

/-- The first read of the current changes, at which the runs part. -/
theorem Parted.first {before : List Event} (hlog : r.log = run.log ++ before) (hbefore : Unread before made) :
    let warning := warningAfter why r.log
    Parted why run made before []
      (((r.record (.history :: tidings (some warning))).settle [] (some warning)).record
        [.read .current (.ok [])])
      (((r.record (.history :: tidings none)).settle [] none).record [.read .current (.ok [])]) := by
  intro warning
  refine ⟨hbefore, ?_, ?_, by simp, rfl, ?_, rfl⟩
  · simp [warning, hlog]
  · simp [hlog, tidings]
  · simp [warning, hlog]

theorem Parted.extend {before after : List Event} (hr : Parted why run made before after r r')
    {events : List Event} (hquiet : ∀ e ∈ events, e.isQuiet) {s s' : Run}
    (hlog : s.log = r.log ++ events) (hlog' : s'.log = r'.log ++ events)
    (hanswers : s.answers = s'.answers) (hcell : s.cell = r.cell) (hcell' : s'.cell = r'.cell) :
    Parted why run made before (after ++ events) s s' where
  unread := hr.unread
  log_eq := by simp [hlog, hr.log_eq]
  log_eq' := by simp [hlog', hr.log_eq']
  quiet := List.forall_mem_append.2 ⟨hr.quiet, hquiet⟩
  answers_eq := hanswers
  cell_eq := hcell.trans hr.cell_eq
  cell_eq' := hcell'.trans hr.cell_eq'

namespace Degraded

theorem nextAnswer_eq (hr : Degraded why run made r r') : r.nextAnswer = r'.nextAnswer := by
  cases hr with
  | unread => rfl
  | read hparted => rw [Run.nextAnswer, Run.nextAnswer, hparted.answers_eq]

theorem record (hr : Degraded why run made r r') {events : List Event} (haside : ∀ e ∈ events, e.isAside) :
    Degraded why run made (r.record events) (r'.record events) := by
  cases hr with
  | unread hlog hbefore hcell =>
    exact .unread (by rw [record_log, hlog, List.append_assoc]) (hbefore.append_aside haside) hcell
  | read hparted =>
    have hquiet : ∀ e ∈ events, e.isQuiet := fun e he => Event.isQuiet_of_isAside (haside e he)
    exact .read (hparted.extend hquiet rfl rfl hparted.answers_eq rfl rfl)

theorem answer (hr : Degraded why run made r r') (text : String) :
    Degraded why run made (r.answer text) (r'.answer text) := by
  have hnext := hr.nextAnswer_eq
  have hasked : ∀ e ∈ [Event.asked text r.nextAnswer], e.isAside := by
    simp [Event.isAside, Event.isQuiet]
  cases hr with
  | unread hlog hbefore hcell =>
    exact .unread (by rw [answer_log, hlog, List.append_assoc]) (hbefore.append_aside hasked) hcell
  | read hparted =>
    have hquiet : ∀ e ∈ [Event.asked text r.nextAnswer], e.isQuiet := by simp [Event.isQuiet]
    refine .read (hparted.extend hquiet rfl ?_ ?_ rfl rfl)
    · rw [answer_log, hnext]
    · exact congrArg List.tail hparted.answers_eq

theorem lasting : Lasting Event.isAside (Degraded why run made) where
  record he hr := hr.record (by simpa using he)
  nextAnswer hr := hr.nextAnswer_eq
  answer text hr := hr.answer text

/-- Both runs may be taken from an earlier point on, if the view was not read in between. -/
theorem of_record {front : List Event} {first : List Call} (hfront : Unread front first)
    (hr : Degraded why (run.record front) made r r') : Degraded why run (first ++ made) r r' := by
  cases hr with
  | unread hlog hbefore hcell =>
    exact .unread (by rw [hlog, record_log, List.append_assoc]) (hfront.append hbefore) hcell
  | read hparted =>
    have hbase : ∀ before, run.log ++ (front ++ before) = (run.record front).log ++ before :=
      fun before => by rw [record_log, List.append_assoc]
    refine .read ⟨hfront.append hparted.unread, ?_, ?_, hparted.quiet, hparted.answers_eq, ?_,
      hparted.cell_eq'⟩
    · rw [hbase, hparted.log_eq]
    · rw [hbase, hparted.log_eq']
    · rw [hbase, hparted.cell_eq]

theorem logs (hr : Degraded why run made r r') :
    (∃ events, r.log = run.log ++ events) ∧ ∃ events, r'.log = run.log ++ events := by
  cases hr with
  | unread hlog => exact ⟨⟨_, hlog⟩, _, hlog⟩
  | read hparted =>
    have hlog := hparted.log_eq
    have hlog' := hparted.log_eq'
    rw [List.append_assoc] at hlog hlog'
    exact ⟨⟨_, hlog⟩, _, hlog'⟩

/-- The runs are the same if the current changes are never read. -/
theorem eq_of_not_read (hr : Degraded why run made r r') :
    ∃ events, r'.log = run.log ++ events ∧
      ((∀ answer, .read .current answer ∉ events) → r = r' ∧ historyRequests events = 0) := by
  cases hr with
  | unread hlog hbefore => exact ⟨_, hlog, fun _ => ⟨rfl, hbefore.requests_eq⟩⟩
  | read hparted =>
    refine ⟨_, by rw [hparted.log_eq', List.append_assoc], fun hnever => absurd ?_ (hnever (.ok []))⟩
    simp

variable (hkind : ∀ events, (why events).kind.isA .repository = true)
include hkind

theorem observe_current :
    Alike (Degraded why run made) ((h.unresolved why).observe .deferred .current)
      (h.unchanged.observe .deferred .current) := by
  intro r r' hr
  cases hr with
  | unread hlog hbefore hcell =>
    have htold : ((h.unresolved why).readView .deferred .current).exec r = _ :=
      exec_deferredChanges_settles hcell (.unresolved (hkind _))
    have hfound : (h.unchanged.readView .deferred .current).exec r = _ :=
      exec_deferredChanges_settles hcell (.found [])
    rw [exec_observe_ok htold, exec_observe_ok hfound]
    exact ⟨rfl, .read (Parted.first hlog hbefore)⟩
  | read hparted =>
    have hshown : ((h.unresolved why).readView .deferred .current).exec r = _ :=
      exec_deferredChanges_settled hparted.cell_eq
    have hshown' : (h.unchanged.readView .deferred .current).exec r' = _ :=
      exec_deferredChanges_settled hparted.cell_eq'
    have hread : ∀ e ∈ [Event.read .current (.ok [])], e.isQuiet := by simp [Event.isQuiet]
    rw [exec_observe_ok hshown, exec_observe_ok hshown']
    exact ⟨rfl, .read (hparted.extend hread rfl rfl hparted.answers_eq rfl rfl)⟩

theorem observe (side : Side) :
    Alike (Degraded why run made) ((h.unresolved why).observe .deferred side)
      (h.unchanged.observe .deferred side) := by
  cases side with
  | current => exact observe_current hkind
  | migrated => exact lasting.observe (fun _ => rfl) (.pure [])

/-- The view of a call that was made before can be read at any time. -/
theorem reread {i : Nat} {call : Call} (hcall : (Helper.calls run.log)[i]? = some call)
    (hview : call.view = .deferred) (side : Side) :
    Alike (Degraded why run made) ((h.unresolved why).reread i side) (h.unchanged.reread i side) := by
  intro r r' hr
  have hlater : ∀ s : Run, (∃ events, s.log = run.log ++ events) →
      (Helper.calls s.log)[i]? = some call := by
    rintro s ⟨events, hlog⟩
    rw [hlog, calls_append]
    exact (List.getElem?_append_left (List.getElem?_eq_some_iff.1 hcall).1).trans hcall
  rw [exec_reread_some (hlater r hr.logs.1), exec_reread_some (hlater r' hr.logs.2), hview]
  exact (observe hkind side).bind (fun _ => .pure ()) r r' hr

end Degraded

/-! ## The run of a squash -/

/-- The call is made after the same events, so its program is the same. -/
theorem Degraded.squash (hkind : ∀ events, (why events).kind.isA .repository = true)
    (hcell : r.cell = .unsettled) {metadata : Metadata}
    (hmetadata : squashMetadata settings h = .ok metadata) :
    let told := (squash settings (h.unresolved why)).exec r
    let found := (squash settings h.unchanged).exec r
    told.1 = found.1 ∧
      Degraded why (r.record [squashRecord h, .migrate (squashCall h metadata)]) [] told.2 found.2 := by
  intro told found
  let call := squashCall h metadata
  let program := h.migrate (r.record [squashRecord h]).log call
  let called := r.record [squashRecord h, .migrate call]
  have hstart : Degraded why called [] called called :=
    .unread (List.append_nil _).symm (unread_of_isAside (by simp)) hcell
  have hperform : Alike (Degraded why called []) ((h.unresolved why).perform call program)
      (h.unchanged.perform call program) :=
    Degraded.lasting.perform (fun _ _ => rfl) call (Degraded.observe hkind) program
  have htold : told = ((fun _ => squashResult h) <$> (h.unresolved why).perform call program).exec called :=
    exec_squash_ok (h := h.unresolved why) hmetadata r
  have hfound : found = ((fun _ => squashResult h) <$> h.unchanged.perform call program).exec called :=
    exec_squash_ok (h := h.unchanged) hmetadata r
  rw [htold, hfound]
  exact hperform.map _ _ _ hstart

/-! ## Later reads -/

/-- Reads the view of a call again, one side after another. -/
def rereads (h : Helper) (index : Nat) (later : List Side) : Act Unit :=
  later.forM (h.reread index)

theorem Degraded.rereads (hkind : ∀ events, (why events).kind.isA .repository = true) {i : Nat}
    {call : Call} (hcall : (Helper.calls run.log)[i]? = some call) (hview : call.view = .deferred)
    (later : List Side) :
    Alike (Degraded why run made) (rereads (h.unresolved why) i later) (rereads h.unchanged i later) :=
  Alike.forM (fun side => Degraded.reread hkind hcall hview side) later

theorem exec_rereads_none {i : Nat} (hnone : (Helper.calls r.log)[i]? = none) (later : List Side) :
    (rereads h i later).exec r = (.ok (), r) := by
  induction later with
  | nil => rfl
  | cons side later ih => exact (exec_bind_ok (exec_reread_none hnone side) _).trans ih

/-- The run of a squash, and then reads of the view that its call was given, if it made one. -/
def session (act : Act Result) (h : Helper) (later : List Side) (run : Run) : Except Failure Result × Run :=
  let ended := act.exec run
  (ended.1, ((rereads h (Helper.calls run.log).length later).exec ended.2).2)

/-! ## With and without an engine -/

/-- A squash, run by itself or by an engine that selects it. -/
inductive Squashing : Option Settings → (Helper → Act Result) → Prop
  | direct {settings : Option Settings} : Squashing settings (runMode .squash settings)
  | engine {settings : Settings} {mode : Option String}
      (hselect : Engine.select settings mode = .ok .squash) :
      Squashing (some settings) fun h => Engine.run settings h mode

theorem isAside_engineRecord (level : Log.Level) (message : String) : (engineRecord level message).isAside :=
  rfl

/-- A way to run a squash that adds at most some events in front and some behind, none of which matter. -/
structure Framed (settings : Option Settings) (act : Helper → Act Result) (front : List Event)
    (back : Except Failure Result → List Event) : Prop where
  front_aside : ∀ e ∈ front, e.isAside
  back_aside : ∀ outcome, ∀ e ∈ back outcome, e.isAside
  exec_eq : ∀ h run, (act h).exec run =
    let ended := (squash settings h).exec (run.record front)
    (ended.1, ended.2.record (back ended.1))

theorem Squashing.framed {act : Helper → Act Result} (hact : Squashing settings act) :
    ∃ front back, Framed settings act front back := by
  cases hact with
  | direct =>
    refine ⟨[], fun _ => [], by simp, by simp, fun h run => ?_⟩
    simp only [record_nil]
    rfl
  | engine hselect =>
    refine ⟨[opening .squash], closing .squash, ?_, ?_, exec_engine hselect⟩
    · simp [opening, isAside_engineRecord]
    · intro outcome e he
      obtain ⟨level, message, rfl⟩ := eq_engineRecord_of_mem_closing he
      exact isAside_engineRecord level message

section

variable {act : Helper → Act Result} {front : List Event} {back : Except Failure Result → List Event}
  (hframed : Framed settings act front back)
include hframed

theorem Framed.session_eq (h : Helper) (later : List Side) (run : Run) :
    session (act h) h later run =
      let ended := (squash settings h).exec (run.record front)
      (ended.1, ((rereads h (Helper.calls run.log).length later).exec
        (ended.2.record (back ended.1))).2) := by
  rw [session, hframed.exec_eq]

theorem Framed.unread (h : Helper) (outcome : Except Failure Result) :
    Unread (front ++ squashRecord h :: back outcome) [] :=
  unread_of_isAside (List.forall_mem_append.2
    ⟨hframed.front_aside, List.forall_mem_cons.2 ⟨rfl, hframed.back_aside outcome⟩⟩)

/-- Without a message and an author there is no call, and no view to read later. -/
theorem Framed.session_error {failure : Failure} (hmetadata : squashMetadata settings h = .error failure)
    (later : List Side) (run : Run) :
    session (act h) h later run =
      (.error failure, run.record (front ++ squashRecord h :: back (.error failure))) := by
  have hnone : (Helper.calls (run.record (front ++ squashRecord h :: back (.error failure))).log)[
      (Helper.calls run.log).length]? = none := by
    rw [record_log, calls_append, (hframed.unread h _).calls_eq, List.append_nil,
      List.getElem?_eq_none le_rfl]
  rw [hframed.session_eq, exec_squash_error hmetadata]
  simp only [record_record, List.append_assoc, List.singleton_append, exec_rereads_none hnone]

theorem Framed.session_ok (hkind : ∀ events, (why events).kind.isA .repository = true)
    (hcell : run.cell = .unsettled) {metadata : Metadata}
    (hmetadata : squashMetadata settings h = .ok metadata) (later : List Side) :
    let told := session (act (h.unresolved why)) (h.unresolved why) later run
    let found := session (act h.unchanged) h.unchanged later run
    told.1 = found.1 ∧ Degraded why run [squashCall h metadata] told.2 found.2 := by
  intro told found
  let call := squashCall h metadata
  have hcalled : Unread (front ++ [squashRecord h, .migrate call]) [call] :=
    (unread_of_isAside hframed.front_aside).append ⟨rfl, by simp [squashRecord], rfl⟩
  have hcall : (Helper.calls (run.record (front ++ [squashRecord h, .migrate call])).log)[
      (Helper.calls run.log).length]? = some call := by
    rw [record_log, calls_append, hcalled.calls_eq, List.getElem?_concat_length]
  obtain ⟨houtcome, hended⟩ := Degraded.squash (r := run.record front) hkind hcell hmetadata
  rw [record_record] at hended
  rw [show told = _ from hframed.session_eq _ later run, show found = _ from hframed.session_eq _ later run]
  refine ⟨houtcome, ?_⟩
  dsimp only
  rw [houtcome]
  obtain ⟨-, hlater⟩ := Degraded.rereads hkind hcall rfl later _ _ (hended.record (hframed.back_aside _))
  exact hlater.of_record hcalled

end

/-- **A squash takes a history that cannot be resolved for an empty one.** Run by itself or by an engine, it
ends alike with either; it makes one call, the same, or none if there is no message or no author to be had;
and the two runs, later reads of the view included, part at the first read of the current changes, by the
warning. If these are never read, the history is not asked for and the runs are the same. -/
theorem squash_degrades (settings : Option Settings) (act : Helper → Act Result)
    (hact : Squashing settings act) (h : Helper) (why : List Event → Failure)
    (hkind : ∀ events, (why events).kind.isA .repository = true) (run : Run) (hcell : run.cell = .unsettled)
    (later : List Side) :
    let told := session (act (h.unresolved why)) (h.unresolved why) later run
    let found := session (act h.unchanged) h.unchanged later run
    told.1 = found.1 ∧
    (∃ made, Degraded why run made told.2 found.2 ∧ made.length ≤ 1 ∧
      ∀ options author, optionsOf settings h = .ok options → authorOf settings h = .ok author →
        made = [squashCall h ⟨options.squashMessage, author⟩]) ∧
    ∃ events, found.2.log = run.log ++ events ∧
      ((∀ answer, .read .current answer ∉ events) → told.2 = found.2 ∧ historyRequests events = 0) := by
  intro told found
  obtain ⟨front, back, hframed⟩ := hact.framed
  have hruns : told.1 = found.1 ∧ ∃ made, Degraded why run made told.2 found.2 ∧ made.length ≤ 1 ∧
      ∀ options author, optionsOf settings h = .ok options → authorOf settings h = .ok author →
        made = [squashCall h ⟨options.squashMessage, author⟩] := by
    cases hmetadata : squashMetadata settings h with
    | error failure =>
      have htold : told = _ := hframed.session_error (h := h.unresolved why) hmetadata later run
      have hfound : found = _ := hframed.session_error (h := h.unchanged) hmetadata later run
      rw [htold, hfound]
      refine ⟨rfl, [], .unread rfl (hframed.unread h _) hcell, Nat.zero_le _, ?_⟩
      intro options author hoptions hauthor
      rw [squashMetadata, hoptions, hauthor] at hmetadata
      cases hmetadata
    | ok metadata =>
      obtain ⟨houtcome, hdegraded⟩ := hframed.session_ok hkind hcell hmetadata later
      refine ⟨houtcome, _, hdegraded, le_rfl, ?_⟩
      intro options author hoptions hauthor
      rw [squashMetadata, hoptions, hauthor] at hmetadata
      cases hmetadata
      rfl
  obtain ⟨houtcome, made, hdegraded, hmade⟩ := hruns
  exact ⟨houtcome, ⟨made, hdegraded, hmade⟩, hdegraded.eq_of_not_read⟩

/-- A squash by an engine, whose call reads the current changes once; they are read again later. -/
theorem squash_degrades_at_first_read :
    let h := scriptedHelper [] fun _ =>
      .say .info "go" (.read .current fun _ => .ask "on?" fun _ => .finish (.ok .ok))
    let gone : Failure := .raised .repository "gone"
    let stuck := h.unresolved fun _ => gone
    let told := session (Engine.run {} stuck none) stuck [.current] {}
    let found := session (Engine.run {} h.unchanged none) h.unchanged [.current] {}
    told.1 = found.1 ∧ ∃ before after,
      found.2.log = before ++ .history :: .read .current (.ok []) :: after ∧
      told.2.log = before ++ .history ::
        (tidings (some (Helper.unresolvedWarning gone)) ++ .read .current (.ok []) :: after) := by
  intro h gone stuck told found
  obtain ⟨houtcome, ⟨made, hdegraded, -⟩, -⟩ := squash_degrades (some {})
    (fun h => Engine.run {} h none) (.engine rfl) h (fun _ => gone) (fun _ => rfl) {} rfl [.current]
  refine ⟨houtcome, ?_⟩
  have hasked : historyRequests found.2.log = 1 := by decide +kernel
  change Degraded (fun _ => gone) {} made told.2 found.2 at hdegraded
  generalize told.2 = final at hdegraded
  generalize found.2 = final' at hdegraded hasked
  cases hdegraded with
  | unread hlog hbefore hcell =>
    rw [hlog, List.nil_append, hbefore.requests_eq] at hasked
    cases hasked
  | read hparted => exact ⟨_, _, hparted.log_eq', hparted.log_eq⟩

end Transplant.Workflow
