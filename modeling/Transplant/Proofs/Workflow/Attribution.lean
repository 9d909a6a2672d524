import Transplant.Proofs.Text.Decimal
import Transplant.Proofs.Workflow.Iterative

/-!
# Whose text is on the console

In an iterative run each call talks to the plain console through a console of its own, which puts the label of
its position before every text; the run itself talks to the plain console. `Program.sent` is what a call sends
to the console that it was given, `Iteration.heardAt` what the plain console hears of a position.

Main statements: a stack of labels is read from the innermost one outwards (`decorate_stack`), the labels of two
positions are never a beginning of one another (`not_isPrefix_positionLabel`), and what the plain console hears
of a run is what it hears of the positions that the run came to (`iterative_attribution`).
-/

namespace Transplant

/-! ## Stacks of labels -/

namespace Console

variable {β : Type}

/-- **A stack of labels is read from the innermost one outwards.** -/
theorem decorate_stack (labels : List String) (c : Console β) (text : String) :
    (labels.foldr .labelled c).decorate text = c.decorate (String.join labels.reverse ++ text) := by
  induction labels generalizing text with
  | nil => simp
  | cons label labels ih =>
    rw [List.foldr_cons, decorate, ih, List.reverse_cons, String.join_append, String.append_assoc]
    simp

theorem bottom_stack (labels : List String) (c : Console β) :
    (labels.foldr .labelled c).bottom = c.bottom := by
  induction labels with
  | nil => rfl
  | cons label labels ih => exact ih

end Console

namespace Workflow

/-! ## Labels of positions -/

/-- The text of a label, such as `Change 2 of 3 (ref): `. -/
theorem toList_positionLabel (k total : Nat) (ref : String) :
    (positionLabel k total ref).toList =
      "Change ".toList ++ (Text.digits k ++ (" of ".toList ++ (Text.digits total ++
        (" (".toList ++ (ref.toList ++ "): ".toList))))) := by
  simp only [positionLabel, Text.decimal, String.toList_append, String.toList_ofList, List.append_assoc]

/-- Lines behind the labels of two positions are different, whatever the references and the texts are. -/
theorem eq_of_positionLabel_append {k j total total' : Nat} {ref ref' : String} {text text' : List Char}
    (heq : (positionLabel k total ref).toList ++ text = (positionLabel j total' ref').toList ++ text') :
    k = j := by
  simp only [toList_positionLabel, List.append_assoc, List.append_cancel_left_eq] at heq
  exact Text.eq_of_digits_append rfl rfl heq

theorem not_isPrefix_positionLabel {k j : Nat} (hkj : k ≠ j) (total : Nat) (ref ref' : String) :
    ¬ (positionLabel k total ref).toList <+: (positionLabel j total ref').toList := by
  rintro ⟨text, htext⟩
  rw [← List.append_nil (positionLabel j total ref').toList] at htext
  exact hkj (eq_of_positionLabel_append htext)

theorem positionLabel_append_ne {k j : Nat} (hkj : k ≠ j) (total : Nat) (ref ref' text text' : String) :
    positionLabel k total ref ++ text ≠ positionLabel j total ref' ++ text' := by
  intro heq
  have hlist := congrArg String.toList heq
  rw [String.toList_append, String.toList_append] at hlist
  exact hkj (eq_of_positionLabel_append hlist)

/-! ## Talk -/

/-- Whether an event is a call or something that the plain console hears. -/
def Event.isHeard : Event → Bool
  | .migrate _ | .said .. | .asked .. => true
  | _ => false

/-- What is said or asked, with a label before its text. -/
def Event.labelled (label : String) : Event → Event
  | .said channel text => .said channel (label ++ text)
  | .asked text answer => .asked (label ++ text) answer
  | e => e

/-- What a program sends to its console, one thing after another, when its view shows some changes and its
questions get some answers; where these are used up the answer is no. -/
def Program.sent (shown : Side → List Change) : Program → List Bool → List Event
  | .finish _, _ => []
  | .say channel text next, answers => .said channel text :: next.sent shown answers
  | .ask text next, answers =>
    .asked text (answers.headD false) :: (next (answers.headD false)).sent shown answers.tail
  | .read side next, answers => (next (.ok (shown side))).sent shown answers

/-- From one state to a later one there were just these calls and texts on the plain console, in this order. -/
def Heard (r r' : Run) (heard : List Event) : Prop :=
  ∃ events, r'.log = r.log ++ events ∧ events.filter Event.isHeard = heard

theorem Heard.refl (r : Run) : Heard r r [] :=
  ⟨[], by simp, rfl⟩

theorem Heard.record (r : Run) (events : List Event) :
    Heard r (r.record events) (events.filter Event.isHeard) :=
  ⟨events, rfl, rfl⟩

theorem Heard.answer (r : Run) (text : String) : Heard r (r.answer text) [.asked text r.nextAnswer] :=
  ⟨_, rfl, rfl⟩

theorem Heard.trans {r s t : Run} {first second : List Event} (h : Heard r s first)
    (g : Heard s t second) : Heard r t (first ++ second) := by
  obtain ⟨es, hlog, hfirst⟩ := h
  obtain ⟨fs, hlog', hsecond⟩ := g
  refine ⟨es ++ fs, ?_, ?_⟩
  · rw [hlog', hlog, List.append_assoc]
  · rw [List.filter_append, hfirst, hsecond]

/-! ## One call -/

theorem heard_perform (h : Helper) (call : Call) {view : Computed} {label : String}
    (hview : call.view = .computed view) (hconsole : call.console = .labelled label Helper.console)
    (p : Program) (r : Run) :
    Heard r ((h.perform call p).exec r).2 ((p.sent view.shown r.answers).map (Event.labelled label)) := by
  -- what the program says next depends on the answer, which both sides take from the state
  induction p generalizing r with
  | finish outcome =>
    rw [Helper.perform, exec_settle]
    exact Heard.refl r
  | say channel text next ih =>
    rw [Helper.perform, hconsole, exec_bind_ok (exec_say ..)]
    exact (Heard.record r [.said channel (label ++ text)]).trans (ih _)
  | ask text next ih =>
    rw [Helper.perform, hconsole, exec_bind_ok (exec_ask ..)]
    exact (Heard.answer r (label ++ text)).trans (ih _ _)
  | read side next ih =>
    rw [Helper.perform, hview, exec_bind_ok (exec_observe_computed ..)]
    exact (Heard.record r [.read side (.ok (view.shown side))]).trans (ih _ _)

theorem heard_write (h : Helper) (call : Call) {view : Computed} {label : String}
    (hview : call.view = .computed view) (hconsole : call.console = .labelled label Helper.console)
    (r : Run) :
    Heard r ((h.write call).exec r).2
      (.migrate call :: ((h.migrate r.log call).sent view.shown r.answers).map (Event.labelled label)) := by
  rw [exec_write]
  exact (Heard.record r [.migrate call]).trans (heard_perform h call hview hconsole _ _)

/-! ## One position -/

namespace Iteration

variable (it : Iteration)

/-- What a call sends to its console in the run. -/
def sentAt (k : Nat) (t : Turn) : List Event :=
  match t.call.view with
  | .computed view => (it.helper.migrate (it.stateAt k).log t.call).sent view.shown (it.stateAt k).answers
  | .deferred => []

/-- What the run itself has to say behind a turn: the warning of an empty change, or the question whether to
go on and, where the operator declines, the warning that the run ends. -/
def ownAt (k : Nat) (t : Turn) : List Event :=
  match t.outcome with
  | .ok .ok => []
  | .ok .promptToContinue =>
    if k + 1 < it.changes.length then
      .asked continuationQuestion t.after.nextAnswer ::
        if t.after.nextAnswer then [] else [.said .warn (abortMessage (it.label k t.call.ref))]
    else []
  | .error why => if why.kind.isA .emptyChange then [.said .warn why.message] else []

/-- What the plain console hears of a position: the call begins, whatever it sends comes with the label of the
position, and then the run speaks for itself. -/
def heardAt (k : Nat) : List Event :=
  match it.turnAt k with
  | none => []
  | some t =>
    .migrate t.call :: ((it.sentAt k t).map (Event.labelled (it.label k t.call.ref)) ++ it.ownAt k t)

variable {it}

theorem console_of_turnAt {k : Nat} {t : Turn} (ht : it.turnAt k = some t) :
    t.call.console = .labelled (it.label k t.call.ref) Helper.console := by
  obtain ⟨c, fresh, hc, hcall, -⟩ := turnAt_eq_some ht
  rw [hcall, callFor, label, length_take_of_getElem? hc]

theorem of_console {h : Helper} {run : Run} {changes : List Change} {k : Nat} {t : Turn}
    (ht : (Iteration.of h run changes).turnAt k = some t) :
    ∃ c, changes[k]? = some c ∧ t.call.ref = c.ref ∧
      t.call.console = .labelled (positionLabel (k + 1) changes.length c.ref) (.base ()) := by
  obtain ⟨c, -, hc, -⟩ := turnAt_eq_some ht
  have href := ref_of_turnAt ht hc
  have hconsole := console_of_turnAt ht
  rw [href] at hconsole
  exact ⟨c, hc, href, hconsole⟩

theorem heard_turn {k : Nat} {t : Turn} (ht : it.turnAt k = some t) :
    Heard (it.stateAt k) t.after
      (.migrate t.call :: (it.sentAt k t).map (Event.labelled (it.label k t.call.ref))) := by
  obtain ⟨c, fresh, -, hcall, hexec⟩ := turnAt_eq_some ht
  have hview : t.call.view = .computed (viewFor (it.changes.take k) c fresh) := by rw [hcall, callFor]
  have hheard := heard_write it.helper t.call hview (console_of_turnAt ht) (it.stateAt k)
  rw [hexec] at hheard
  rw [sentAt, hview]
  exact hheard

/-- What the run says behind a turn is heard in the state in which it goes on, unless it ends there. -/
theorem heard_goOn {k : Nat} {t : Turn} (ht : it.turnAt k = some t) (hpass : ¬ it.StopsAt k) :
    Heard t.after (it.goOn k t) (it.ownAt k t) := by
  obtain ⟨t', ht', hgo⟩ := turn_of_pass (lt_of_turnAt ht) hpass
  obtain rfl : t' = t := Option.some.inj (ht'.symm.trans ht)
  rcases hgo with hok | ⟨hprompt, hyes⟩ | ⟨why, hfail, hkind⟩
  · simp only [goOn, ownAt, hok]
    exact Heard.refl _
  · simp only [goOn, ownAt, hprompt]
    by_cases hleft : k + 1 < it.changes.length
    · simpa [hleft, hyes hleft] using Heard.answer t'.after continuationQuestion
    · simpa [hleft] using Heard.refl t'.after
  · simp only [goOn, ownAt, hfail, hkind, if_true]
    exact Heard.record _ _

theorem heardAt_of_turnAt {k : Nat} {t : Turn} (ht : it.turnAt k = some t) :
    it.heardAt k =
      .migrate t.call :: (it.sentAt k t).map (Event.labelled (it.label k t.call.ref)) ++ it.ownAt k t := by
  rw [heardAt, ht]
  rfl

/-- At the position that stops the loop the plain console hears the call, if there is one, and where the operator
declined the question and the warning. -/
theorem heard_stop {k calls : Nat} {why : Failure} {final : Run} (hstop : it.Stop k calls why final) :
    Heard (it.stateAt k) final (it.heardAt k) := by
  cases hstop with
  | repeated hc hmem =>
    rw [heardAt, turnAt_of_repeated hc hmem]
    exact Heard.refl _
  | @failed t why ht hfail hkind =>
    have hown : it.ownAt k t = [] := by simp only [ownAt, hfail, hkind, Bool.false_eq_true, if_false]
    rw [heardAt_of_turnAt ht, hown, List.append_nil]
    exact heard_turn ht
  | @declined t ht hprompt hleft hno =>
    have hown : it.ownAt k t = [.asked continuationQuestion t.after.nextAnswer] ++
        [.said .warn (abortMessage (it.label k t.call.ref))] := by
      simp [ownAt, hprompt, hleft, hno]
    rw [heardAt_of_turnAt ht, hown]
    exact (heard_turn ht).trans ((Heard.answer _ _).trans (Heard.record _ _))

/-! ## The run -/

theorem heard_pass {k : Nat} (hk : k < it.changes.length) (hpass : ¬ it.StopsAt k) :
    Heard (it.stateAt k) (it.stateAt (k + 1)) (it.heardAt k) := by
  obtain ⟨t, ht, -⟩ := turn_of_pass hk hpass
  rw [stateAt_succ ht, heardAt_of_turnAt ht]
  exact (heard_turn ht).trans (heard_goOn ht hpass)

/-- The plain console hears of the positions one after another. -/
theorem heard_tells (it : Iteration) : it.Tells Heard it.heardAt :=
  ⟨Heard.refl, Heard.trans, heard_pass, heard_stop⟩

/-- Nothing is heard of the history or of the log. -/
theorem heard_of (h : Helper) (run : Run) (changes : List Change) :
    Heard run (Iteration.of h run changes).start [] :=
  Heard.record run _

end Iteration

variable {h : Helper} {run : Run} {changes : List Change}

/-- A run that a position stops is heard up to that position. -/
theorem heard_iterative_stop (hchanges : h.changesSinceLastImport (run.log ++ [.history]) = .ok changes)
    {k : Nat} (hpass : ∀ j < k, ¬ (Iteration.of h run changes).StopsAt j)
    (hstops : (Iteration.of h run changes).StopsAt k) :
    Heard run ((iterative h).exec run).2
      ((List.range (k + 1)).flatMap (Iteration.of h run changes).heardAt) :=
  (Iteration.heard_tells _).iterative_stop (Iteration.heard_of h run changes) hchanges hpass hstops

/-- A run that no position stops is heard to the end. -/
theorem heard_iterative_end (hchanges : h.changesSinceLastImport (run.log ++ [.history]) = .ok changes)
    (hpass : ∀ k < changes.length, ¬ (Iteration.of h run changes).StopsAt k) :
    Heard run ((iterative h).exec run).2
      ((List.range changes.length).flatMap (Iteration.of h run changes).heardAt) :=
  (Iteration.heard_tells _).iterative_end (Iteration.heard_of h run changes) hchanges hpass

/-- **Every text on the plain console belongs to the run or to one change.** What a call sends to the console that
it was given is heard in the same order and on the same channel with the label of its position in front, its
questions get the answers of the plain console, and what the run says for itself has no label. Further labels
around a console come before its own, the outermost last. No label of a position is the beginning of that of
another one of the run, so a line can be told to its change. -/
theorem iterative_attribution (h : Helper) (run : Run) :
    (∀ why, h.changesSinceLastImport (run.log ++ [.history]) = .error why →
      Heard run ((iterative h).exec run).2 []) ∧
    (∀ changes, h.changesSinceLastImport (run.log ++ [.history]) = .ok changes →
      let it := Iteration.of h run changes
      (∀ k t, it.turnAt k = some t → ∃ c, changes[k]? = some c ∧ t.call.ref = c.ref ∧
        t.call.console = .labelled (positionLabel (k + 1) changes.length c.ref) (.base ())) ∧
      (∀ k, (∀ j < k, ¬ it.StopsAt j) → it.StopsAt k →
        Heard run ((iterative h).exec run).2 ((List.range (k + 1)).flatMap it.heardAt)) ∧
      ((∀ k < changes.length, ¬ it.StopsAt k) →
        Heard run ((iterative h).exec run).2 ((List.range changes.length).flatMap it.heardAt))) ∧
    (∀ (β : Type) (labels : List String) (console : Console β) (text : String),
      (labels.foldr .labelled console).decorate text =
          console.decorate (String.join labels.reverse ++ text) ∧
        (labels.foldr .labelled console).bottom = console.bottom) ∧
    (∀ (console : Console Unit) (text : String) (r : Run),
      (∀ channel, (say console channel text).exec r =
        (.ok (), r.record [.said channel (console.decorate text)])) ∧
      (ask console text).exec r = (.ok r.nextAnswer, r.answer (console.decorate text))) ∧
    ∀ k j total ref ref', k ≠ j →
      ¬ (positionLabel k total ref).toList <+: (positionLabel j total ref').toList ∧
        ∀ text text', positionLabel k total ref ++ text ≠ positionLabel j total ref' ++ text' := by
  refine ⟨?_, ?_, ?_, ?_, ?_⟩
  · intro why hwhy
    rw [exec_iterative_error hwhy]
    exact Heard.record run [.history]
  · intro changes hchanges it
    exact ⟨fun k t => Iteration.of_console, fun k => heard_iterative_stop hchanges,
      heard_iterative_end hchanges⟩
  · intro β labels console text
    exact ⟨Console.decorate_stack labels console text, Console.bottom_stack labels console⟩
  · intro console text r
    exact ⟨fun channel => exec_say .., exec_ask ..⟩
  · intro k j total ref ref' hkj
    exact ⟨not_isPrefix_positionLabel hkj total ref ref', positionLabel_append_ne hkj total ref ref'⟩

/-- A call that says something and asks a question before the operator declines to go on. -/
theorem iterative_attribution_declined :
    let h := scriptedHelper [bareChange "a", bareChange "b"] fun _ =>
      .say .progress "writing" (.ask "sure?" fun _ => .finish (.ok .promptToContinue))
    let run : Run := { answers := [true, false] }
    let label := positionLabel 1 2 "a"
    ∃ call, Heard run ((iterative h).exec run).2
      [ .migrate call
      , .said .progress (label ++ "writing")
      , .asked (label ++ "sure?") true
      , .asked "Continue importing next change?" false
      , .said .warn ("Iterative workflow aborted by user after: " ++ label) ] := by
  intro h run label
  have hruns := (iterative_attribution h run).2.1 [bareChange "a", bareChange "b"] rfl
  have hheard := hruns.2.1 0 (by simp) ⟨_, _, _, .declined rfl rfl (by decide) rfl⟩
  exact ⟨_, hheard⟩

end Workflow

end Transplant
