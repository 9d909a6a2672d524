import Transplant.Workflow.Engine

/-!
# How the steps of a run execute

`Act.exec` is computed step by step: one equation for each way to build a step, one for each thing a
step can record. `Run.record` is the only change that most steps make, so a state after them is read
off as the state before and a list of events.

A migrate call against a computed view (`write_exec_computed`) records itself and then only what its
program says, asks and reads: no further call and no request for the history.
-/

namespace Transplant.Workflow

variable {α β : Type}

/-! ## States -/

/-- The state after some events. -/
def Run.record (r : Run) (events : List Event) : Run :=
  { r with log := r.log ++ events }

@[simp] theorem record_log (r : Run) (events : List Event) :
    (r.record events).log = r.log ++ events := rfl

@[simp] theorem record_answers (r : Run) (events : List Event) :
    (r.record events).answers = r.answers := rfl

@[simp] theorem record_cell (r : Run) (events : List Event) :
    (r.record events).cell = r.cell := rfl

@[simp] theorem record_nil (r : Run) : r.record [] = r := by
  simp [Run.record]

@[simp] theorem record_record (r : Run) (es fs : List Event) :
    (r.record es).record fs = r.record (es ++ fs) := by
  simp [Run.record]

/-- The answer that the operator gives to the next question. -/
def Run.nextAnswer (r : Run) : Bool :=
  r.answers.headD false

/-- The state after a question of which the operator sees the given text. -/
def Run.answer (r : Run) (text : String) : Run :=
  { r with answers := r.answers.tail, log := r.log ++ [.asked text r.nextAnswer] }

@[simp] theorem answer_log (r : Run) (text : String) :
    (r.answer text).log = r.log ++ [.asked text r.nextAnswer] := rfl

/-! ## Equations -/

@[simp] theorem exec_pure (a : α) (r : Run) : (pure a : Act α).exec r = (.ok a, r) := rfl

@[simp] theorem exec_throw (why : Failure) (r : Run) :
    (throw why : Act α).exec r = (.error why, r) := rfl

@[simp] theorem exec_get (r : Run) : (get : Act Run).exec r = (.ok r, r) := rfl

@[simp] theorem exec_set (r s : Run) : (set s : Act PUnit).exec r = (.ok ⟨⟩, s) := rfl

theorem exec_bind (act : Act α) (f : α → Act β) (r : Run) :
    (act >>= f).exec r =
      match (act.exec r).1 with
      | .ok a => (f a).exec (act.exec r).2
      | .error why => (.error why, (act.exec r).2) := by
  change (ExceptT.bindCont f (act.exec r).1 : StateM Run (Except Failure β)) (act.exec r).2 = _
  cases (act.exec r).1 <;> rfl

theorem exec_map (f : α → β) (act : Act α) (r : Run) :
    (f <$> act).exec r = ((act.exec r).1.map f, (act.exec r).2) := by
  rw [map_eq_pure_bind, exec_bind]
  cases (act.exec r).1 <;> rfl

theorem exec_tryCatch (act : Act α) (handler : Failure → Act α) (r : Run) :
    (tryCatch act handler).exec r =
      match (act.exec r).1 with
      | .ok a => (.ok a, (act.exec r).2)
      | .error why => (handler why).exec (act.exec r).2 := by
  unfold Act.exec ExceptT.run StateT.run
  simp only [tryCatch, tryCatchThe, MonadExceptOf.tryCatch, ExceptT.tryCatch, ExceptT.mk, bind,
    StateT.bind]
  cases act r with
  | mk outcome after => cases outcome <;> rfl

theorem exec_bind_ok {act : Act α} {r r' : Run} {a : α} (h : act.exec r = (.ok a, r'))
    (f : α → Act β) : (act >>= f).exec r = (f a).exec r' := by
  rw [exec_bind, h]

theorem exec_bind_error {act : Act α} {r r' : Run} {why : Failure}
    (h : act.exec r = (.error why, r')) (f : α → Act β) :
    (act >>= f).exec r = (.error why, r') := by
  rw [exec_bind, h]

@[simp] theorem exec_settle (x : Except Failure α) (r : Run) : (settle x).exec r = (x, r) := by
  cases x <;> rfl

theorem exec_settle_ok {x : Except Failure α} {a : α} (h : x = .ok a) (r : Run) :
    (settle x).exec r = (.ok a, r) := by
  rw [h, exec_settle]

theorem exec_settle_error {x : Except Failure α} {why : Failure} (h : x = .error why) (r : Run) :
    (settle x).exec r = (.error why, r) := by
  rw [h, exec_settle]

@[simp] theorem exec_emit (e : Event) (r : Run) : (emit e).exec r = (.ok (), r.record [e]) := rfl

@[simp] theorem exec_log (level : Log.Level) (component message : String) (r : Run) :
    (log level component message).exec r =
      (.ok (), r.record [.logged ⟨level, some component, message⟩]) := rfl

@[simp] theorem exec_say (console : Console Unit) (channel : Channel) (text : String) (r : Run) :
    (say console channel text).exec r = (.ok (), r.record [.said channel (console.decorate text)]) :=
  rfl

@[simp] theorem exec_ask (console : Console Unit) (text : String) (r : Run) :
    (ask console text).exec r = (.ok r.nextAnswer, r.answer (console.decorate text)) := rfl

theorem exec_importedChanges (h : Helper) (r : Run) :
    h.importedChanges.exec r =
      (h.changesSinceLastImport (r.log ++ [.history]), r.record [.history]) := by
  rw [Helper.importedChanges, exec_bind_ok (exec_emit ..), exec_bind_ok (exec_get _), exec_settle]
  rfl

/-! ## Inside a migrate call -/

/-- Whether an event is something that a program says, asks or reads. -/
def Event.isTalk : Event → Bool
  | .said .. | .asked .. | .read .. => true
  | _ => false

/-- What a computed view shows on a side. -/
def Computed.shown (view : Computed) : Side → List Change
  | .current => view.current
  | .migrated => view.migrated

theorem exec_readView_computed (h : Helper) (view : Computed) (side : Side) (r : Run) :
    (h.readView (.computed view) side).exec r = (.ok (view.shown side), r) := by
  cases side <;> rfl

/-- A read that finds changes is recorded with them. -/
theorem exec_observe_ok {h : Helper} {view : View} {side : Side} {changes : List Change} {r r' : Run}
    (hread : (h.readView view side).exec r = (.ok changes, r')) :
    (h.observe view side).exec r = (.ok (.ok changes), r'.record [.read side (.ok changes)]) := by
  have hanswer : (tryCatch (Except.ok <$> h.readView view side)
      fun why => return .error why : Act _).exec r = (.ok (.ok changes), r') := by
    rw [exec_tryCatch, exec_map, hread]
    rfl
  rw [Helper.observe, exec_bind_ok hanswer]
  rfl

/-- A read of a computed view answers with what the view was built from, whatever happened before. -/
theorem exec_observe_computed (h : Helper) (view : Computed) (side : Side) (r : Run) :
    (h.observe (.computed view) side).exec r =
      (.ok (.ok (view.shown side)), r.record [.read side (.ok (view.shown side))]) :=
  exec_observe_ok (exec_readView_computed h view side r)

theorem exec_reread_some {h : Helper} {i : Nat} {call : Call} {r : Run}
    (hcall : (Helper.calls r.log)[i]? = some call) (side : Side) :
    (h.reread i side).exec r = (h.observe call.view side >>= fun _ => pure ()).exec r := by
  rw [Helper.reread, exec_bind_ok (exec_get r), hcall]

theorem exec_reread_none {h : Helper} {i : Nat} {r : Run} (hcall : (Helper.calls r.log)[i]? = none)
    (side : Side) : (h.reread i side).exec r = (.ok (), r) := by
  rw [Helper.reread, exec_bind_ok (exec_get r), hcall]
  rfl

theorem exec_perform_computed (h : Helper) (call : Call) (view : Computed)
    (hview : call.view = .computed view) (p : Program) (r : Run) :
    ∃ talk, ((h.perform call p).exec r).2.log = r.log ++ talk ∧ ∀ e ∈ talk, e.isTalk := by
  -- a program branches on what it is answered, so the rest talks whatever the answer is
  induction p generalizing r with
  | finish outcome => exact ⟨[], by simp [Helper.perform], by simp⟩
  | say channel text next ih =>
    obtain ⟨talk, hlog, htalk⟩ := ih (r.record [.said channel (call.console.decorate text)])
    refine ⟨.said channel (call.console.decorate text) :: talk, ?_, ?_⟩
    · rw [Helper.perform, exec_bind_ok (exec_say ..), hlog]
      simp
    · simpa [Event.isTalk] using htalk
  | ask text next ih =>
    obtain ⟨talk, hlog, htalk⟩ := ih r.nextAnswer (r.answer (call.console.decorate text))
    refine ⟨.asked (call.console.decorate text) r.nextAnswer :: talk, ?_, ?_⟩
    · rw [Helper.perform, exec_bind_ok (exec_ask ..), hlog]
      simp
    · simpa [Event.isTalk] using htalk
  | read side next ih =>
    obtain ⟨talk, hlog, htalk⟩ :=
      ih (.ok (view.shown side)) (r.record [.read side (.ok (view.shown side))])
    refine ⟨.read side (.ok (view.shown side)) :: talk, ?_, ?_⟩
    · rw [Helper.perform, hview, exec_bind_ok (exec_observe_computed ..), hlog]
      simp
    · simpa [Event.isTalk] using htalk

theorem exec_write (h : Helper) (call : Call) (r : Run) :
    (h.write call).exec r =
      (h.perform call (h.migrate r.log call)).exec (r.record [.migrate call]) := by
  rw [Helper.write, exec_bind_ok (exec_get r)]
  exact exec_bind_ok (exec_emit ..) _

/-- **A migrate call records itself and then only talk**, if its view is computed. -/
theorem write_exec_computed (h : Helper) (call : Call) (view : Computed)
    (hview : call.view = .computed view) (r : Run) :
    ∃ talk, ((h.write call).exec r).2.log = r.log ++ .migrate call :: talk ∧
      ∀ e ∈ talk, e.isTalk := by
  obtain ⟨talk, hlog, htalk⟩ :=
    exec_perform_computed h call view hview (h.migrate r.log call) (r.record [.migrate call])
  refine ⟨talk, ?_, htalk⟩
  rw [exec_write, hlog]
  simp

/-! ## Calls and requests among the events -/

/-- How often the history was asked for. -/
def historyRequests (events : List Event) : Nat :=
  events.countP fun
    | .history => true
    | _ => false

@[simp] theorem calls_append (es fs : List Event) :
    Helper.calls (es ++ fs) = Helper.calls es ++ Helper.calls fs := by
  simp [Helper.calls]

@[simp] theorem calls_nil : Helper.calls [] = [] := rfl

@[simp] theorem calls_migrate (call : Call) (es : List Event) :
    Helper.calls (.migrate call :: es) = call :: Helper.calls es := rfl

/-- Whether an event is neither a call nor a request for the history. -/
def Event.isQuiet : Event → Bool
  | .migrate _ | .history => false
  | _ => true

theorem Event.isQuiet_of_isTalk {e : Event} (htalk : e.isTalk) : e.isQuiet := by
  cases e <;> simp_all [Event.isTalk, Event.isQuiet]

theorem calls_quiet {events : List Event} (hquiet : ∀ e ∈ events, e.isQuiet) :
    Helper.calls events = [] := by
  refine List.filterMap_eq_nil_iff.2 fun e he => ?_
  have := hquiet e he
  cases e <;> simp_all [Event.isQuiet]

theorem calls_talk {talk : List Event} (htalk : ∀ e ∈ talk, e.isTalk) : Helper.calls talk = [] :=
  calls_quiet fun e he => Event.isQuiet_of_isTalk (htalk e he)

@[simp] theorem historyRequests_append (es fs : List Event) :
    historyRequests (es ++ fs) = historyRequests es + historyRequests fs := by
  simp [historyRequests]

theorem historyRequests_quiet {events : List Event} (hquiet : ∀ e ∈ events, e.isQuiet) :
    historyRequests events = 0 := by
  refine List.countP_eq_zero.2 fun e he => ?_
  have := hquiet e he
  cases e <;> simp_all [Event.isQuiet]

theorem historyRequests_talk {talk : List Event} (htalk : ∀ e ∈ talk, e.isTalk) :
    historyRequests talk = 0 :=
  historyRequests_quiet fun e he => Event.isQuiet_of_isTalk (htalk e he)

/-- From one state to a later one the history was asked for a number of times and just these calls were
made, in this order. -/
def Since (r r' : Run) (requests : Nat) (made : List Call) : Prop :=
  ∃ events, r'.log = r.log ++ events ∧ historyRequests events = requests ∧
    Helper.calls events = made

theorem Since.refl (r : Run) : Since r r 0 [] :=
  ⟨[], by simp, rfl, rfl⟩

theorem Since.trans {r s t : Run} {m n : Nat} {first second : List Call} (h : Since r s m first)
    (g : Since s t n second) : Since r t (m + n) (first ++ second) := by
  obtain ⟨es, hlog, hcount, hcalls⟩ := h
  obtain ⟨fs, hlog', hcount', hcalls'⟩ := g
  refine ⟨es ++ fs, ?_, ?_, ?_⟩
  · rw [hlog', hlog, List.append_assoc]
  · rw [historyRequests_append, hcount, hcount']
  · rw [calls_append, hcalls, hcalls']

theorem Since.record (r : Run) (events : List Event) :
    Since r (r.record events) (historyRequests events) (Helper.calls events) :=
  ⟨events, rfl, rfl, rfl⟩

theorem Since.quiet (r : Run) {events : List Event} (hquiet : ∀ e ∈ events, e.isQuiet) :
    Since r (r.record events) 0 [] :=
  ⟨events, rfl, historyRequests_quiet hquiet, calls_quiet hquiet⟩

theorem Since.answer (r : Run) (text : String) : Since r (r.answer text) 0 [] :=
  ⟨_, rfl, rfl, rfl⟩

theorem Since.write {h : Helper} {call : Call} {view : Computed} (hview : call.view = .computed view)
    (r : Run) : Since r ((h.write call).exec r).2 0 [call] := by
  obtain ⟨talk, hlog, htalk⟩ := write_exec_computed h call view hview r
  refine ⟨_, hlog, ?_, ?_⟩
  · simpa [historyRequests] using historyRequests_talk htalk
  · rw [calls_migrate, calls_talk htalk]

/-! ## Runs by a script -/

/-- A change that is told apart by its reference. -/
def bareChange (ref : String) : Change :=
  { ref := ref, author := ⟨ref, ""⟩, message := ref, labels := [], date := none }

/-- A helper with a fixed history, the oldest change first, whose calls follow a script. -/
def scriptedHelper (changes : List Change) (script : String → Program) : Helper :=
  { resolvedReference := "tip"
    changesSinceLastImport := fun _ => .ok changes
    history := changes.reverse
    migrate := fun _ call => script call.ref
    originLabel := "origin-ref"
    defaultAuthor := .ok ⟨"", ""⟩
    options := .ok {} }

end Transplant.Workflow
