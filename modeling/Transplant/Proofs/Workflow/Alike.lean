import Transplant.Proofs.Workflow.Baseline
import Transplant.Proofs.Workflow.Deferred

/-!
# Two runs side by side

`Alike R` says of two steps that they end alike from related states and leave related states behind. The
ways to build a step keep this; a relation that is `Lasting` keeps it for whatever is recorded and asked, and
so for a whole migrate call (`Lasting.perform`).

`Beside` relates two states that went on alike from two logs. Main statement: helpers that agree from two logs
on are run alike by every mode that takes the same from its options and default author
(`Agree.runMode_of_sameSource`). Of one run, put beside itself, this tells which events it adds
(`runMode_adds`).
-/

namespace Transplant.Workflow

variable {α β : Type}

/-- Two steps that do the same from related states: they end alike and leave related states behind. -/
def Alike (R : Run → Run → Prop) (act act' : Act α) : Prop :=
  ∀ r r', R r r' → (act.exec r).1 = (act'.exec r').1 ∧ R (act.exec r).2 (act'.exec r').2

namespace Alike

variable {R : Run → Run → Prop} {act act' : Act α}

theorem pure (a : α) : Alike R (pure a) (pure a) :=
  fun _ _ hr => ⟨rfl, hr⟩

theorem throw (why : Failure) : Alike R (throw why : Act α) (throw why) :=
  fun _ _ hr => ⟨rfl, hr⟩

theorem settle (outcome : Except Failure α) : Alike R (settle outcome) (settle outcome) := by
  intro r r' hr
  rw [exec_settle, exec_settle]
  exact ⟨rfl, hr⟩

theorem bind {f f' : α → Act β} (hact : Alike R act act') (hf : ∀ a, Alike R (f a) (f' a)) :
    Alike R (act >>= f) (act' >>= f') := by
  intro r r' hr
  obtain ⟨houtcome, hafter⟩ := hact r r' hr
  rw [exec_bind, exec_bind, ← houtcome]
  cases (act.exec r).1 with
  | ok a => exact hf a _ _ hafter
  | error why => exact ⟨rfl, hafter⟩

/-- Two steps that go on alike from whatever has a part in common do the same if they agree on that part. -/
theorem settle_bind {γ : Type} {x y : Except Failure α} {part : α → γ} {f f' : α → Act β}
    (hpart : x.map part = y.map part) (hf : ∀ a a', part a = part a' → Alike R (f a) (f' a')) :
    Alike R (Workflow.settle x >>= f) (Workflow.settle y >>= f') := by
  intro r r' hr
  rw [exec_bind, exec_bind, exec_settle, exec_settle]
  cases x with
  | ok a =>
    cases y with
    | ok a' => exact hf a a' (Except.ok.inj hpart) r r' hr
    | error why => cases hpart
  | error why =>
    cases y with
    | ok a' => cases hpart
    | error why' => exact ⟨congrArg Except.error (Except.error.inj hpart), hr⟩

theorem map (f : α → β) (hact : Alike R act act') : Alike R (f <$> act) (f <$> act') := by
  rw [map_eq_pure_bind, map_eq_pure_bind]
  exact hact.bind fun a => .pure (f a)

theorem forM {f f' : β → Act Unit} (hf : ∀ b, Alike R (f b) (f' b)) (bs : List β) :
    Alike R (bs.forM f) (bs.forM f') := by
  induction bs with
  | nil => exact .pure _
  | cons b bs ih => exact (hf b).bind fun _ => ih

theorem tryCatch {handler handler' : Failure → Act α} (hact : Alike R act act')
    (hhandler : ∀ why, Alike R (handler why) (handler' why)) :
    Alike R (tryCatch act handler) (tryCatch act' handler') := by
  intro r r' hr
  obtain ⟨houtcome, hafter⟩ := hact r r' hr
  rw [exec_tryCatch, exec_tryCatch, ← houtcome]
  cases (act.exec r).1 with
  | ok a => exact ⟨rfl, hafter⟩
  | error why => exact hhandler why _ _ hafter

end Alike

/-! ## Relations that last -/

/-- A relation between states that lasts while both sides record the same events of a kind and ask the same
questions; the operator answers them alike. -/
structure Lasting (P : Event → Bool) (R : Run → Run → Prop) : Prop where
  record : ∀ {r r' e}, P e → R r r' → R (r.record [e]) (r'.record [e])
  nextAnswer : ∀ {r r'}, R r r' → r.nextAnswer = r'.nextAnswer
  answer : ∀ {r r'} (text : String), R r r' → R (r.answer text) (r'.answer text)

namespace Lasting

variable {P : Event → Bool} {R : Run → Run → Prop} {h h' : Helper} (hR : Lasting P R)
include hR

theorem emit {e : Event} (he : P e) : Alike R (emit e) (emit e) :=
  fun _ _ hr => ⟨rfl, hR.record he hr⟩

theorem ask (console : Console Unit) (text : String) : Alike R (ask console text) (ask console text) := by
  intro r r' hr
  rw [exec_ask, exec_ask, hR.nextAnswer hr]
  exact ⟨rfl, hR.answer _ hr⟩

theorem observe {view : View} {side : Side} (hrecorded : ∀ answer, P (.read side answer))
    (hread : Alike R (h.readView view side) (h'.readView view side)) :
    Alike R (h.observe view side) (h'.observe view side) := by
  refine Alike.bind ((hread.map _).tryCatch fun why => .pure _) fun answer => ?_
  split_ifs
  · exact (hR.emit (hrecorded answer)).bind fun _ => .pure _
  · exact .pure _

variable (hsaid : ∀ channel text, P (.said channel text))
include hsaid

theorem say (console : Console Unit) (channel : Channel) (text : String) :
    Alike R (say console channel text) (say console channel text) :=
  hR.emit (hsaid _ _)

theorem confirmContinuation (label : String) (migrated : List String) (last : String) :
    Alike R (confirmContinuation label migrated last) (confirmContinuation label migrated last) := by
  refine (hR.ask _ _).bind fun answer => ?_
  cases answer with
  | true => exact .pure _
  | false => exact (hR.say hsaid _ _ _).bind fun _ => .throw _

/-- What a migrate call does it does alike, if its reads do. -/
theorem perform (call : Call)
    (hobserve : ∀ side, Alike R (h.observe call.view side) (h'.observe call.view side)) (p : Program) :
    Alike R (h.perform call p) (h'.perform call p) := by
  induction p with
  | finish outcome => exact .settle outcome
  | say channel text next ih => exact (hR.say hsaid _ _ _).bind fun _ => ih
  | ask text next ih => exact (hR.ask _ _).bind ih
  | read side next ih => exact (hobserve side).bind ih

end Lasting

/-! ## From two logs -/

/-- Two states that went on alike from two logs: both sides recorded the same events since, all of a kind,
the operator has the same answers left to give, and the deferred view stands alike. -/
structure Beside (P : Event → Bool) (base base' : List Event) (r r' : Run) : Prop where
  log : ∃ events, r.log = base ++ events ∧ r'.log = base' ++ events ∧ ∀ e ∈ events, P e
  answers : r.answers = r'.answers
  cell : r.cell = r'.cell

namespace Beside

variable {P : Event → Bool} {base base' : List Event} {r r' : Run}

theorem start (hanswers : r.answers = r'.answers) (hcell : r.cell = r'.cell) :
    Beside P r.log r'.log r r' :=
  ⟨⟨[], by simp, by simp, by simp⟩, hanswers, hcell⟩

theorem extend (hr : Beside P base base' r r') {events : List Event} (hevents : ∀ e ∈ events, P e)
    {s s' : Run} (hlog : s.log = r.log ++ events) (hlog' : s'.log = r'.log ++ events)
    (hanswers : s.answers = s'.answers) (hcell : s.cell = s'.cell) : Beside P base base' s s' := by
  obtain ⟨earlier, hbase, hbase', hearlier⟩ := hr.log
  refine ⟨⟨earlier ++ events, ?_, ?_, ?_⟩, hanswers, hcell⟩
  · rw [hlog, hbase, List.append_assoc]
  · rw [hlog', hbase', List.append_assoc]
  · exact List.forall_mem_append.2 ⟨hearlier, hevents⟩

theorem record (hr : Beside P base base' r r') {events : List Event} (hevents : ∀ e ∈ events, P e) :
    Beside P base base' (r.record events) (r'.record events) :=
  hr.extend hevents rfl rfl hr.answers hr.cell

theorem settle (hr : Beside P base base' r r') (changes : List Change) (warning : Option String) :
    Beside P base base' (r.settle changes warning) (r'.settle changes warning) :=
  ⟨hr.log, hr.answers, rfl⟩

theorem nextAnswer_eq (hr : Beside P base base' r r') : r.nextAnswer = r'.nextAnswer := by
  rw [Run.nextAnswer, Run.nextAnswer, hr.answers]

/-- But for their logs the states are one. -/
theorem eq_withLog (hr : Beside P base base' r r') : r = { r' with log := r.log } := by
  rw [← hr.answers, ← hr.cell]

theorem lasting (htalk : ∀ e : Event, e.isTalk → P e) (base base' : List Event) :
    Lasting P (Beside P base base') where
  record he hr := hr.record (by simpa using he)
  nextAnswer hr := hr.nextAnswer_eq
  answer {r r'} text hr := by
    have hasked : ∀ e ∈ [Event.asked text r.nextAnswer], P e := by simpa using htalk _ rfl
    refine hr.extend hasked rfl ?_ ?_ hr.cell
    · rw [answer_log, hr.nextAnswer_eq]
    · exact congrArg List.tail hr.answers

end Beside

/-! ## Helpers that agree -/

/-- Whether an event may happen inside a migrate call: talk, or a look for the changes of a deferred view. -/
def Event.isInner : Event → Bool
  | .history => true
  | .logged record => record.component == some "LazyChanges"
  | e => e.isTalk

/-- Whether an event may happen in the run of a mode: anything but a record of the engine. -/
def Event.isOwn : Event → Bool
  | .logged record => record.component != some Engine.component
  | _ => true

theorem Event.isInner_of_isTalk {e : Event} (htalk : e.isTalk) : e.isInner := by
  cases e <;> simp_all [Event.isTalk, Event.isInner]

theorem Event.isOwn_of_isInner {e : Event} (hinner : e.isInner) : e.isOwn := by
  cases e <;> simp_all [Event.isInner, Event.isTalk, Event.isOwn, Engine.component]

theorem Event.isOwn_of_isTalk {e : Event} (htalk : e.isTalk) : e.isOwn :=
  isOwn_of_isInner (isInner_of_isTalk htalk)

theorem isInner_tidings {warning : Option String} : ∀ e ∈ tidings warning, e.isInner := by
  cases warning with
  | none => simp [tidings]
  | some text => simp [tidings, Event.isInner, Event.isTalk]

/-- Two helpers that behave alike after the same events on top of two logs. Their options and default
authors may differ. -/
structure Agree (P : Event → Bool) (base base' : List Event) (h h' : Helper) : Prop where
  resolvedReference : h.resolvedReference = h'.resolvedReference
  history : h.history = h'.history
  originLabel : h.originLabel = h'.originLabel
  changes : ∀ events : List Event, (∀ e ∈ events, P e) →
    h.changesSinceLastImport (base ++ events) = h'.changesSinceLastImport (base' ++ events)
  migrate : ∀ events : List Event, (∀ e ∈ events, P e) →
    h.migrate (base ++ events) = h'.migrate (base' ++ events)

/-- Two runs of a mode take the same from the options and the default author in force: a squash its message
and author, a change request its baseline, and the other modes nothing. -/
def SameSource (mode : Mode) (settings : Option Settings) (h : Helper) (settings' : Option Settings)
    (h' : Helper) : Prop :=
  match mode with
  | .squash =>
    (optionsOf settings h).map (·.squashMessage) = (optionsOf settings' h').map (·.squashMessage) ∧
      authorOf settings h = authorOf settings' h'
  | .changeRequest =>
    (optionsOf settings h).map (·.changeBaseline) = (optionsOf settings' h').map (·.changeBaseline)
  | .iterative | .mirror => True

theorem SameSource.of_eq {settings settings' : Option Settings} {h h' : Helper}
    (hoptions : optionsOf settings h = optionsOf settings' h')
    (hauthor : authorOf settings h = authorOf settings' h') (mode : Mode) :
    SameSource mode settings h settings' h' := by
  cases mode with
  | squash => exact ⟨by rw [hoptions], hauthor⟩
  | changeRequest => exact congrArg _ hoptions
  | iterative => trivial
  | mirror => trivial

theorem Agree.refl (P : Event → Bool) (base : List Event) (h : Helper) : Agree P base base h h :=
  ⟨rfl, rfl, rfl, fun _ _ => rfl, fun _ _ => rfl⟩

namespace Agree

variable {base base' : List Event} {h h' : Helper}

section

variable {P : Event → Bool} (hagree : Agree P base base' h h') (hP : ∀ e : Event, e.isInner → P e)
include hagree hP

theorem changes_eq {r r' : Run} (hr : Beside P base base' r r') :
    h.changesSinceLastImport (r.log ++ [.history]) =
      h'.changesSinceLastImport (r'.log ++ [.history]) := by
  obtain ⟨events, hlog, hlog', hevents⟩ := hr.log
  rw [hlog, hlog', List.append_assoc, List.append_assoc]
  exact hagree.changes _ (List.forall_mem_append.2 ⟨hevents, by simpa using hP _ rfl⟩)

theorem importedChanges : Alike (Beside P base base') h.importedChanges h'.importedChanges := by
  intro r r' hr
  rw [exec_importedChanges, exec_importedChanges, hagree.changes_eq hP hr]
  exact ⟨rfl, hr.record (by simpa using hP _ rfl)⟩

theorem deferredChanges : Alike (Beside P base base') h.deferredChanges h'.deferredChanges := by
  intro r r' hr
  have hcell := hr.cell
  have hchanges := hagree.changes_eq hP hr
  cases hfirst : r.cell with
  | settled changes warning =>
    rw [hfirst] at hcell
    rw [exec_deferredChanges_settled hfirst, exec_deferredChanges_settled hcell.symm]
    exact ⟨rfl, hr⟩
  | unsettled =>
    rw [hfirst] at hcell
    rcases settles_or_escapes (h.changesSinceLastImport (r.log ++ [.history])) with
      ⟨changes, warning, hsettles⟩ | ⟨why, hescapes⟩
    · rw [exec_deferredChanges_settles hfirst hsettles,
        exec_deferredChanges_settles hcell.symm (hchanges ▸ hsettles)]
      refine ⟨rfl, (hr.record ?_).settle _ _⟩
      exact List.forall_mem_cons.2 ⟨hP _ rfl, fun e he => hP e (isInner_tidings e he)⟩
    · rw [exec_deferredChanges_escapes hfirst hescapes,
        exec_deferredChanges_escapes hcell.symm (hchanges ▸ hescapes)]
      exact ⟨rfl, hr.record (by simpa using hP _ rfl)⟩

theorem readView (view : View) (side : Side) :
    Alike (Beside P base base') (h.readView view side) (h'.readView view side) := by
  cases view with
  | computed view => cases side <;> exact .pure _
  | deferred =>
    cases side with
    | current => exact hagree.deferredChanges hP
    | migrated => exact .pure _

theorem perform (call : Call) (p : Program) :
    Alike (Beside P base base') (h.perform call p) (h'.perform call p) := by
  have htalk : ∀ e : Event, e.isTalk → P e := fun e he => hP e (Event.isInner_of_isTalk he)
  have hlasting := Beside.lasting htalk base base'
  refine hlasting.perform (fun _ _ => htalk _ rfl) call (fun side => ?_) p
  exact hlasting.observe (fun _ => htalk _ rfl) (hagree.readView hP _ side)

end

/-! ## Modes -/

theorem lasting (base base' : List Event) : Lasting Event.isOwn (Beside Event.isOwn base base') :=
  Beside.lasting (fun _ => Event.isOwn_of_isTalk) base base'

section

variable (hagree : Agree Event.isOwn base base' h h')
include hagree

theorem write (call : Call) :
    Alike (Beside Event.isOwn base base') (h.write call) (h'.write call) := by
  intro r r' hr
  have hmigrate : h.migrate r.log = h'.migrate r'.log := by
    obtain ⟨events, hlog, hlog', hevents⟩ := hr.log
    rw [hlog, hlog', hagree.migrate events hevents]
  have hcalled : ∀ e ∈ [Event.migrate call], e.isOwn := by simp [Event.isOwn]
  rw [exec_write, exec_write, hmigrate]
  exact hagree.perform (fun _ => Event.isOwn_of_isInner) call _ _ _ (hr.record hcalled)

theorem squash {settings settings' : Option Settings}
    (hmessage : (optionsOf settings h).map (·.squashMessage) = (optionsOf settings' h').map (·.squashMessage))
    (hauthor : authorOf settings h = authorOf settings' h') :
    Alike (Beside Event.isOwn base base') (squash settings h) (squash settings' h') := by
  unfold Workflow.squash
  rw [hauthor, hagree.resolvedReference]
  refine ((lasting base base').emit rfl).bind fun _ => Alike.settle_bind hmessage fun o o' hsame => ?_
  rw [hsame]
  exact (Alike.settle _).bind fun author => (hagree.write _).bind fun _ => .pure _

theorem attempt (label : String) (c : Change) (before : List Change) :
    Alike (Beside Event.isOwn base base') (attempt h label c before) (attempt h' label c before) := by
  unfold Workflow.attempt migrateOne
  refine Alike.tryCatch (((Alike.settle _).bind fun view => hagree.write _).map _) fun why => ?_
  split_ifs
  · refine ((lasting base base').emit rfl).bind fun _ => ?_
    exact ((lasting base base').emit rfl).bind fun _ => .pure _
  · exact .throw why

theorem iterateFrom (total : Nat) (changes : List Change) (number : Nat) (before : List Change)
    (result : Result) :
    Alike (Beside Event.isOwn base base') (iterateFrom h total number before result changes)
      (iterateFrom h' total number before result changes) := by
  induction changes generalizing number before result with
  | nil => exact .pure _
  | cons c rest ih =>
    unfold Workflow.iterateFrom
    refine (hagree.attempt _ _ _).bind fun turn => ?_
    cases turn with
    | empty => exact ih _ _ _
    | written answer =>
      dsimp only
      split_ifs
      · have hconfirm := (lasting base base').confirmContinuation fun _ _ => rfl
        exact (hconfirm _ _ _).bind fun _ => ih _ _ _
      · exact ih _ _ _

theorem iterative : Alike (Beside Event.isOwn base base') (iterative h) (iterative h') := by
  unfold Workflow.iterative
  refine (hagree.importedChanges fun _ => Event.isOwn_of_isInner).bind fun changes => ?_
  exact ((lasting base base').emit rfl).bind fun _ => hagree.iterateFrom _ _ _ _ _

theorem findBaseline (ref : String) :
    Alike (Beside Event.isOwn base base') (findBaseline h ref) (findBaseline h' ref) := by
  intro r r' hr
  by_cases hknown : ∃ c ∈ h.history, c.ref = ref
  · rw [exec_findBaseline hknown, exec_findBaseline (hagree.history ▸ hknown), hagree.history,
      hagree.originLabel]
    refine ⟨rfl, hr.record fun e he => ?_⟩
    obtain ⟨c, -, rfl⟩ := List.mem_map.1 he
    rfl
  · have hunknown : ∀ c ∈ h.history, c.ref ≠ ref := fun c hc href => hknown ⟨c, hc, href⟩
    rw [exec_findBaseline_unknown hunknown, exec_findBaseline_unknown (hagree.history ▸ hunknown)]
    exact ⟨rfl, hr⟩

theorem requestOn (baseline : String) :
    Alike (Beside Event.isOwn base base') (requestOn h baseline) (requestOn h' baseline) := by
  unfold Workflow.requestOn requestCall requestResult
  rw [hagree.resolvedReference, hagree.history]
  refine ((lasting base base').emit rfl).bind fun _ => (Alike.settle _).bind fun c => ?_
  exact (hagree.write _).bind fun _ => .pure _

theorem changeRequest {settings settings' : Option Settings}
    (hbaseline : (optionsOf settings h).map (·.changeBaseline) =
      (optionsOf settings' h').map (·.changeBaseline)) :
    Alike (Beside Event.isOwn base base') (changeRequest settings h) (changeRequest settings' h') := by
  rw [changeRequest_eq, changeRequest_eq, hagree.resolvedReference]
  refine Alike.settle_bind hbaseline fun o o' hsame => ?_
  rw [hsame]
  cases usable o'.changeBaseline with
  | some b => exact hagree.requestOn b
  | none =>
    refine ((hagree.findBaseline _).map _).bind fun baseline => ?_
    cases baseline with
    | none => exact .throw _
    | some b => exact hagree.requestOn b

/-- **Helpers that agree are run alike by every mode** that takes the same from the options and the default
author in force. -/
theorem runMode_of_sameSource {mode : Mode} {settings settings' : Option Settings}
    (hsource : SameSource mode settings h settings' h') :
    Alike (Beside Event.isOwn base base') (runMode mode settings h) (runMode mode settings' h') := by
  cases mode with
  | squash => exact hagree.squash hsource.1 hsource.2
  | iterative => exact hagree.iterative
  | changeRequest => exact hagree.changeRequest hsource
  | mirror => exact .throw _

theorem runMode {settings : Option Settings} (hoptions : optionsOf settings h = optionsOf settings h')
    (hauthor : authorOf settings h = authorOf settings h') (mode : Mode) :
    Alike (Beside Event.isOwn base base') (runMode mode settings h) (runMode mode settings h') :=
  hagree.runMode_of_sameSource (.of_eq hoptions hauthor mode)

end

end Agree

/-- The run of a mode only adds events to the log, and none that the engine would record. -/
theorem runMode_adds (mode : Mode) (settings : Option Settings) (h : Helper) (r : Run) :
    ∃ events, ((runMode mode settings h).exec r).2.log = r.log ++ events ∧ ∀ e ∈ events, e.isOwn := by
  have hagree := Agree.refl Event.isOwn r.log h
  obtain ⟨-, hafter⟩ := hagree.runMode rfl rfl mode r r (.start rfl rfl)
  obtain ⟨events, hlog, -, hevents⟩ := hafter.log
  exact ⟨events, hlog, hevents⟩

end Transplant.Workflow
