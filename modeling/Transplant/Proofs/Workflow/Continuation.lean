import Transplant.Proofs.Workflow.Attribution

/-!
# When an iterative run asks whether to go on

The question stands between two calls: behind all that the first one did and right in front of the second. A mark
is a call or such a question together with all that happened before it, so the marks of a run tell which calls and
questions there are, in which order and at which moments (`Marked`).

A call cannot ask that question itself, since whatever it asks has a label (`marked_turn`). Main statement:
`iterative_continuations`.
-/

namespace Transplant.Workflow

/-! ## Marks -/

/-- Whether an event is a call or the question whether to go on. -/
def Event.isMark : Event → Bool
  | .migrate _ => true
  | .asked text _ => text == continuationQuestion
  | _ => false

theorem Event.isHeard_of_isMark {e : Event} (h : e.isMark = true) : e.isHeard = true := by
  cases e <;> first | rfl | cases h

/-- The calls and the questions whether to go on among some events, each with all that happened before it. -/
def marks (before : List Event) : List Event → List (List Event × Event)
  | [] => []
  | e :: rest =>
    if e.isMark then (before, e) :: marks (before ++ [e]) rest else marks (before ++ [e]) rest

theorem marks_append (before es fs : List Event) :
    marks before (es ++ fs) = marks before es ++ marks (before ++ es) fs := by
  induction es generalizing before with
  | nil => simp [marks]
  | cons e rest ih =>
    rw [List.cons_append, marks, marks, ih, List.append_assoc, List.singleton_append]
    split <;> rfl

theorem marks_eq_nil {events : List Event} (hnone : ∀ e ∈ events, e.isMark = false) (before : List Event) :
    marks before events = [] := by
  induction events generalizing before with
  | nil => rfl
  | cons e rest ih =>
    obtain ⟨he, hrest⟩ := List.forall_mem_cons.1 hnone
    rw [marks, he]
    exact ih hrest _

/-- From one state to a later one there were just these marks, in this order. -/
def Marked (r r' : Run) (marked : List (List Event × Event)) : Prop :=
  ∃ events, r'.log = r.log ++ events ∧ marks r.log events = marked

namespace Marked

variable {r s t : Run} {first second : List (List Event × Event)}

theorem refl (r : Run) : Marked r r [] :=
  ⟨[], by simp, rfl⟩

theorem trans (h : Marked r s first) (g : Marked s t second) : Marked r t (first ++ second) := by
  obtain ⟨es, hlog, hfirst⟩ := h
  obtain ⟨fs, hlog', hsecond⟩ := g
  refine ⟨es ++ fs, ?_, ?_⟩
  · rw [hlog', hlog, List.append_assoc]
  · rw [marks_append, hfirst, ← hlog, hsecond]

theorem unmarked (r : Run) {events : List Event} (hnone : ∀ e ∈ events, e.isMark = false) :
    Marked r (r.record events) [] :=
  ⟨events, rfl, marks_eq_nil hnone _⟩

theorem answer (r : Run) :
    Marked r (r.answer continuationQuestion) [(r.log, .asked continuationQuestion r.nextAnswer)] :=
  ⟨_, rfl, by simp [marks, Event.isMark]⟩

end Marked

/-! ## Calls -/

theorem positionLabel_append_ne_continuationQuestion (k total : Nat) (ref text : String) :
    positionLabel k total ref ++ text ≠ continuationQuestion := by
  intro heq
  -- the third letters differ
  have hthird := congrArg (fun s => s.toList[2]?) heq
  simp [positionLabel, continuationQuestion, String.toList_append] at hthird

theorem isMark_labelled {k total : Nat} {ref : String} {e : Event} (hcall : ∀ call, e ≠ .migrate call) :
    (e.labelled (positionLabel k total ref)).isMark = false := by
  cases e with
  | migrate call => exact absurd rfl (hcall call)
  | asked text answer =>
    exact beq_eq_false_iff_ne.2 (positionLabel_append_ne_continuationQuestion k total ref text)
  | _ => rfl

/-- Whether the call of a turn asked for consent to go on. -/
def Turn.prompts (t : Turn) : Bool :=
  match t.outcome with
  | .ok .promptToContinue => true
  | _ => false

namespace Iteration

/-- The question behind a turn, which is asked where the call wants it and another change is left. -/
def questionAt (it : Iteration) (k : Nat) (t : Turn) : List (List Event × Event) :=
  if t.prompts && decide (k + 1 < it.changes.length) then
    [(t.after.log, .asked continuationQuestion t.after.nextAnswer)]
  else []

/-- The marks of a position: its call, which begins in the state in which the loop comes there, and the question
behind it. -/
def marksAt (it : Iteration) (k : Nat) : List (List Event × Event) :=
  match it.turnAt k with
  | none => []
  | some t => ((it.stateAt k).log, .migrate t.call) :: it.questionAt k t

variable {it : Iteration}

/-- A call is marked by its beginning only. -/
theorem marked_turn {k : Nat} {t : Turn} (ht : it.turnAt k = some t) :
    Marked (it.stateAt k) t.after [((it.stateAt k).log, .migrate t.call)] := by
  obtain ⟨c, fresh, -, hcall, hexec⟩ := turnAt_eq_some ht
  have hview : t.call.view = .computed (viewFor (it.changes.take k) c fresh) := by rw [hcall, callFor]
  obtain ⟨talk, hlog, htalk⟩ := write_exec_computed it.helper t.call _ hview (it.stateAt k)
  obtain ⟨events, hlog', hheard⟩ := heard_turn ht
  rw [hexec] at hlog
  -- both say what follows the call: the one that it is talk, the other that what is heard of it has the label
  obtain rfl : events = .migrate t.call :: talk := List.append_cancel_left (hlog'.symm.trans hlog)
  have hlabelled : talk.filter Event.isHeard =
      (it.sentAt k t).map (Event.labelled (it.label k t.call.ref)) := (List.cons.inj hheard).2
  have hnone : ∀ e ∈ talk, e.isMark = false := by
    intro e he
    refine Bool.eq_false_iff.2 fun hmark => ?_
    have hmem : e ∈ (it.sentAt k t).map (Event.labelled (it.label k t.call.ref)) :=
      hlabelled ▸ List.mem_filter.2 ⟨he, Event.isHeard_of_isMark hmark⟩
    obtain ⟨sent, -, rfl⟩ := List.mem_map.1 hmem
    have hcall : ∀ call, sent ≠ .migrate call := by
      rintro call rfl
      exact absurd (htalk _ he) (by simp [Event.labelled, Event.isTalk])
    exact absurd hmark (Bool.eq_false_iff.1 (isMark_labelled hcall))
  refine ⟨_, hlog, ?_⟩
  rw [marks, marks_eq_nil hnone]
  rfl

theorem marksAt_of_turnAt {k : Nat} {t : Turn} (ht : it.turnAt k = some t) :
    it.marksAt k = [((it.stateAt k).log, .migrate t.call)] ++ it.questionAt k t := by
  rw [marksAt, ht]
  rfl

/-- Behind a turn that does not end the loop there is the question, if any, and no other mark. -/
theorem marked_goOn {k : Nat} {t : Turn} (ht : it.turnAt k = some t) (hpass : ¬ it.StopsAt k) :
    Marked t.after (it.goOn k t) (it.questionAt k t) := by
  obtain ⟨t', ht', hgo⟩ := turn_of_pass (lt_of_turnAt ht) hpass
  obtain rfl : t' = t := Option.some.inj (ht'.symm.trans ht)
  rcases hgo with hok | ⟨hprompt, -⟩ | ⟨why, hfail, -⟩
  · simp only [goOn, questionAt, Turn.prompts, hok]
    exact Marked.refl _
  · simp only [goOn, questionAt, Turn.prompts, hprompt]
    by_cases hleft : k + 1 < it.changes.length
    · simpa [hleft] using Marked.answer t'.after
    · simpa [hleft] using Marked.refl t'.after
  · simp only [goOn, questionAt, Turn.prompts, hfail]
    exact Marked.unmarked _ (by simp [Event.isMark])

/-- Where the loop ends there are the marks of the position as well. -/
theorem marked_stop {k calls : Nat} {why : Failure} {final : Run} (hstop : it.Stop k calls why final) :
    Marked (it.stateAt k) final (it.marksAt k) := by
  cases hstop with
  | repeated hc hmem =>
    rw [marksAt, turnAt_of_repeated hc hmem]
    exact Marked.refl _
  | @failed t why ht hfail hkind =>
    have hquestion : it.questionAt k t = [] := by simp [questionAt, Turn.prompts, hfail]
    rw [marksAt_of_turnAt ht, hquestion, List.append_nil]
    exact marked_turn ht
  | @declined t ht hprompt hleft hno =>
    have hquestion : it.questionAt k t =
        [(t.after.log, .asked continuationQuestion t.after.nextAnswer)] ++ [] := by
      simp [questionAt, Turn.prompts, hprompt, hleft]
    rw [marksAt_of_turnAt ht, hquestion]
    exact (marked_turn ht).trans ((Marked.answer _).trans (Marked.unmarked _ (by simp [Event.isMark])))

theorem marked_pass {k : Nat} (hk : k < it.changes.length) (hpass : ¬ it.StopsAt k) :
    Marked (it.stateAt k) (it.stateAt (k + 1)) (it.marksAt k) := by
  obtain ⟨t, ht, -⟩ := turn_of_pass hk hpass
  rw [stateAt_succ ht, marksAt_of_turnAt ht]
  exact (marked_turn ht).trans (marked_goOn ht hpass)

/-- The marks are those of the positions one after another. -/
theorem marked_tells (it : Iteration) : it.Tells Marked it.marksAt :=
  ⟨Marked.refl, Marked.trans, marked_pass, marked_stop⟩

/-- Behind a call that asked for consent the loop comes to the next position with the consent just given. -/
theorem log_stateAt_of_prompt {k : Nat} {t : Turn} (ht : it.turnAt k = some t)
    (hprompt : t.outcome = .ok .promptToContinue) (hleft : k + 1 < it.changes.length) (hpass : ¬ it.StopsAt k) :
    t.after.nextAnswer = true ∧
      (it.stateAt (k + 1)).log = t.after.log ++ [.asked continuationQuestion true] := by
  have hyes : t.after.nextAnswer = true := by
    by_contra hno
    exact hpass ⟨_, _, _, .declined ht hprompt hleft (Bool.not_eq_true _ ▸ hno)⟩
  refine ⟨hyes, ?_⟩
  rw [stateAt_succ ht, goOn, hprompt]
  simp [hleft, hyes]

end Iteration

/-! ## Runs -/

theorem marked_of (h : Helper) (run : Run) (changes : List Change) :
    Marked run (Iteration.of h run changes).start [] :=
  Marked.unmarked run (by simp [Event.isMark])

/-- **An iterative run asks whether to go on where a call wants it and another change is left, and nowhere else.**
Its calls and questions are those of its positions in their order, up to the first that stops it: each call at the
moment in which the loop comes there, and the question at the moment in which the call has returned. The call behind
a question begins right after the operator has agreed. -/
theorem iterative_continuations (h : Helper) (run : Run) :
    (∀ why, h.changesSinceLastImport (run.log ++ [.history]) = .error why →
      Marked run ((iterative h).exec run).2 []) ∧
    ∀ changes, h.changesSinceLastImport (run.log ++ [.history]) = .ok changes →
      let it := Iteration.of h run changes
      (∀ k t, it.turnAt k = some t → (∃ c, changes[k]? = some c ∧ t.call.ref = c.ref) ∧
        (h.write t.call).exec (it.stateAt k) = (t.outcome, t.after)) ∧
      (∀ k, (∀ j < k, ¬ it.StopsAt j) → it.StopsAt k →
        Marked run ((iterative h).exec run).2 ((List.range (k + 1)).flatMap it.marksAt)) ∧
      ((∀ k < changes.length, ¬ it.StopsAt k) →
        Marked run ((iterative h).exec run).2 ((List.range changes.length).flatMap it.marksAt)) ∧
      ∀ k t, ¬ it.StopsAt k → k + 1 < changes.length → it.turnAt k = some t →
        t.outcome = .ok .promptToContinue →
          t.after.nextAnswer = true ∧
            (it.stateAt (k + 1)).log = t.after.log ++ [.asked "Continue importing next change?" true] := by
  refine ⟨fun why hwhy => ?_, fun changes hchanges => ?_⟩
  · rw [exec_iterative_error hwhy]
    exact Marked.unmarked run (by simp [Event.isMark])
  · intro it
    have htells := Iteration.marked_tells it
    have hstart := marked_of h run changes
    refine ⟨fun k t ht => ?_, fun k => htells.iterative_stop hstart hchanges,
      htells.iterative_end hstart hchanges, ?_⟩
    · obtain ⟨c, -, hc, -, hexec⟩ := Iteration.turnAt_eq_some ht
      exact ⟨⟨c, hc, Iteration.ref_of_turnAt ht hc⟩, hexec⟩
    · intro k t hpass hleft ht hprompt
      exact Iteration.log_stateAt_of_prompt ht hprompt hleft hpass

/-- A call that asks for consent, an empty change and a call that asks for it behind the last change: only the first
is followed by the question. -/
theorem iterative_continuations_once :
    let h := scriptedHelper [bareChange "a", bareChange "b", bareChange "c"] fun ref =>
      .finish (if ref = "b" then .error (.raised .emptyChange "nothing") else .ok .promptToContinue)
    let run : Run := { answers := [true] }
    ∃ marked, Marked run ((iterative h).exec run).2 marked ∧
      marked.map (fun mark => match mark.2 with | .asked _ answer => some answer | _ => none) =
        [none, some true, none, none] := by
  intro h run
  obtain ⟨-, -, hall, -⟩ := (iterative_continuations h run).2
    [bareChange "a", bareChange "b", bareChange "c"] rfl
  exact ⟨_, hall (by decide), by decide⟩

end Transplant.Workflow
