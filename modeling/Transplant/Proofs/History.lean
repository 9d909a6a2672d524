import Mathlib.Data.List.TakeWhile
import Transplant.History

/-!
# Histories

The index of a history has the first position of every reference (`lookup_indexOf`). So a reference means its most
recent change (`IsLatest`); what is older than that change comes after it in the part of the history from the
reference on. A visitor is shown that part change by change until it ends the walk (`Traversal`).

## Main statement

* `visit_traverses`: what looking up and visiting a reference do, whatever the visitor does
-/

namespace Transplant.History

/-! ## The index -/

theorem Index.lookup_note (index : Index) (noted ref : String) (position : Nat) :
    (index.note noted position).lookup ref = (index.lookup ref).or (if noted = ref then some position else none) := by
  unfold Index.note
  split
  · rename_i hnoted
    split
    · rename_i href
      subst href
      obtain ⟨first, hfirst⟩ := Option.isSome_iff_exists.1 hnoted
      rw [hfirst, Option.some_or]
    · rw [Option.or_none]
  · rw [List.lookup_append, List.lookup_cons, List.lookup_nil]
    by_cases href : noted = ref
    · simp [href]
    · rw [beq_false_of_ne (Ne.symm href), if_neg href]

/-- Reading a history into an index keeps the positions that the index has, and adds the first position of each other
reference. -/
theorem lookup_foldl_note (history : List Change) (index : Index) (start : Nat) (ref : String) :
    ((history.zipIdx start).foldl (fun index (c, position) => index.note c.ref position) index).lookup ref =
      (index.lookup ref).or ((history.findIdx? (·.ref == ref)).map (· + start)) := by
  induction history generalizing index start with
  | nil => simp
  | cons c rest ih =>
    rw [List.zipIdx_cons, List.foldl_cons, ih, Index.lookup_note, Option.or_assoc, List.findIdx?_cons]
    by_cases href : c.ref = ref
    · simp [href]
    · have hshift (position : Nat) : position + (start + 1) = position + 1 + start := by omega
      simp [href, hshift, Function.comp_def]

theorem lookup_indexOf (history : List Change) (ref : String) :
    (indexOf history).lookup ref = history.findIdx? (·.ref == ref) := by
  rw [indexOf, lookup_foldl_note]
  simp

/-- What the index finds is what a search from the most recent change on finds. -/
theorem since_eq_dropWhile (history : List Change) (ref : String) :
    since history ref = history.dropWhile fun c => c.ref != ref := by
  have hnot : (fun c : Change => !(c.ref != ref)) = fun c => c.ref == ref := by simp [bne]
  rw [since, lookup_indexOf, List.dropWhile_eq_drop_findIdx_not, hnot]
  cases hfound : history.findIdx? (·.ref == ref) with
  | some position =>
    obtain ⟨-, hposition⟩ := List.findIdx?_eq_some_iff_findIdx_eq.1 hfound
    rw [hposition]
  | none => rw [List.findIdx?_eq_none_iff_findIdx_eq.1 hfound, List.drop_length]

/-! ## Looking up a reference -/

theorem since_of_mem {history : List Change} {ref : String} (hknown : ∃ c ∈ history, c.ref = ref) :
    ∃ newer c older, history = newer ++ c :: older ∧ (∀ d ∈ newer, d.ref ≠ ref) ∧ c.ref = ref ∧
      since history ref = c :: older := by
  induction history with
  | nil => simp at hknown
  | cons d rest ih =>
    by_cases href : d.ref = ref
    · exact ⟨[], d, rest, rfl, by simp, href, by simp [since_eq_dropWhile, href]⟩
    · obtain ⟨c, hc, hcref⟩ := hknown
      rcases List.mem_cons.1 hc with rfl | hc
      · exact absurd hcref href
      · obtain ⟨newer, e, older, hsplit, hnewer, heref, hsince⟩ := ih ⟨c, hc, hcref⟩
        refine ⟨d :: newer, e, older, by rw [hsplit]; rfl, ?_, heref, ?_⟩
        · exact List.forall_mem_cons.2 ⟨href, hnewer⟩
        · rw [since_eq_dropWhile, List.dropWhile_cons_of_pos (by simpa using href), ← since_eq_dropWhile]
          exact hsince

theorem since_eq_cons {history newer older : List Change} {ref : String} {c : Change}
    (hsplit : history = newer ++ c :: older) (hnewer : ∀ d ∈ newer, d.ref ≠ ref) (href : c.ref = ref) :
    since history ref = c :: older := by
  rw [hsplit, since_eq_dropWhile, List.dropWhile_append_of_pos (by simpa using hnewer)]
  simp [href]

theorem since_eq_nil {history : List Change} {ref : String} (hunknown : ∀ c ∈ history, c.ref ≠ ref) :
    since history ref = [] := by
  rw [since_eq_dropWhile, List.dropWhile_eq_nil_iff]
  simpa using hunknown

/-- The most recent change with a reference. -/
def IsLatest (history : List Change) (ref : String) (c : Change) : Prop :=
  ∃ newer older, history = newer ++ c :: older ∧ (∀ d ∈ newer, d.ref ≠ ref) ∧ c.ref = ref

theorem IsLatest.known {history : List Change} {ref : String} {c : Change}
    (hc : IsLatest history ref c) : ∃ d ∈ history, d.ref = ref := by
  obtain ⟨newer, older, rfl, -, href⟩ := hc
  exact ⟨c, by simp, href⟩

theorem IsLatest.change_eq {history : List Change} {ref : String} {c : Change}
    (hc : IsLatest history ref c) : change history ref = .ok c := by
  obtain ⟨newer, older, hsplit, hnewer, href⟩ := hc
  rw [change, since_eq_cons hsplit hnewer href]

theorem exists_isLatest {history : List Change} {ref : String} (hknown : ∃ c ∈ history, c.ref = ref) :
    ∃ c, IsLatest history ref c := by
  obtain ⟨newer, c, older, hsplit, hnewer, href, -⟩ := since_of_mem hknown
  exact ⟨c, newer, older, hsplit, hnewer, href⟩

theorem change_of_unknown {history : List Change} {ref : String} (hunknown : ∀ c ∈ history, c.ref ≠ ref) :
    change history ref = .error (.unknownReference ref) := by
  rw [change, since_eq_nil hunknown]

/-! ## Answers -/

section Visiting

variable {σ : Type}

/-- A visitor that may keep a state, fail, and leave its verdict open. -/
abbrev Answer (σ : Type) := Change → ExceptT Failure (StateM σ) (Option Verdict)

/-- How a walk ends with the answer to a change, if it ends there. -/
def ending? : Except Failure (Option Verdict) → Option (Except Failure Unit)
  | .ok (some .terminate) => some (.ok ())
  | .error why => some (.error why)
  | .ok (some .proceed) => none
  | .ok none => none

/-- The state of a visitor after it was shown some changes. -/
def stateAfter (v : Answer σ) (s : σ) (shown : List Change) : σ :=
  shown.foldl (fun s c => ((v c).run.run s).2) s

/-- The answer of a visitor to a change after it was shown some others. -/
def answerAfter (v : Answer σ) (s : σ) (shown : List Change) (c : Change) : Except Failure (Option Verdict) :=
  ((v c).run.run (stateAfter v s shown)).1

theorem stateAfter_cons (v : Answer σ) (s : σ) (c : Change) (shown : List Change) :
    stateAfter v s (c :: shown) = stateAfter v (stateAfter v s [c]) shown := rfl

theorem answerAfter_cons (v : Answer σ) (s : σ) (c d : Change) (shown : List Change) :
    answerAfter v s (c :: shown) d = answerAfter v (stateAfter v s [c]) shown d := rfl

/-- A visitor that also notes the changes it is shown. -/
def noting (v : Answer σ) : Answer (σ × List Change) := fun c => ExceptT.mk fun (s, seen) =>
  let (answer, s') := (v c).run.run s
  (answer, (s', seen ++ [c]))

/-- Whether no answer to any of some changes, which are shown in order, ends the walk. -/
def GoesOn (v : Answer σ) (s : σ) (changes : List Change) : Prop :=
  ∀ before c after, changes = before ++ c :: after → ending? (answerAfter v s before c) = none

theorem goesOn_nil (v : Answer σ) (s : σ) : GoesOn v s [] := by
  intro before c after h
  simp at h

theorem goesOn_cons {v : Answer σ} {s : σ} {c : Change} {changes : List Change}
    (hc : ending? (answerAfter v s [] c) = none) (h : GoesOn v (stateAfter v s [c]) changes) :
    GoesOn v s (c :: changes) := by
  intro before d after hsplit
  cases before with
  | nil =>
    obtain ⟨rfl, -⟩ := List.cons.inj hsplit
    exact hc
  | cons e before =>
    obtain ⟨rfl, hrest⟩ := List.cons.inj hsplit
    rw [answerAfter_cons]
    exact h before d after hrest

/-! ## Walking -/

/-- Which of some changes a visitor is shown, and how the walk ends: all up to the first one whose answer ends it,
or all of them. -/
inductive Traversal (v : Answer σ) (s : σ) : (changes shown : List Change) → Except Failure Unit → Prop
  | ended (before : List Change) (c : Change) (after : List Change) {outcome : Except Failure Unit}
      (before_goes_on : GoesOn v s before) (ending : ending? (answerAfter v s before c) = some outcome) :
      Traversal v s (before ++ c :: after) (before ++ [c]) outcome
  | exhausted {changes : List Change} (goes_on : GoesOn v s changes) : Traversal v s changes changes (.ok ())

theorem Traversal.cons {v : Answer σ} {s : σ} {c : Change} {changes shown : List Change}
    {outcome : Except Failure Unit} (hc : ending? (answerAfter v s [] c) = none)
    (h : Traversal v (stateAfter v s [c]) changes shown outcome) :
    Traversal v s (c :: changes) (c :: shown) outcome := by
  cases h with
  | ended before d after hbefore hending => exact .ended (c :: before) d after (goesOn_cons hc hbefore) hending
  | exhausted hall => exact .exhausted (goesOn_cons hc hall)

theorem Traversal.head?_shown {v : Answer σ} {s : σ} {c : Change} {older shown : List Change}
    {outcome : Except Failure Unit} (h : Traversal v s (c :: older) shown outcome) : shown.head? = some c := by
  generalize hchanges : c :: older = changes at h
  cases h with
  | ended before =>
    cases before with
    | nil => rw [(List.cons.inj hchanges).1]; rfl
    | cons e before => rw [(List.cons.inj hchanges).1]; rfl
  | exhausted => rw [← hchanges]; rfl

theorem walk_cons (visitor : Visitor σ) (c : Change) (rest : List Change) (s : σ) :
    (walk visitor (c :: rest)).run.run s =
      match (visitor c).run.run s with
      | (.ok .terminate, s') => (.ok (), s')
      | (.ok .proceed, s') => (walk visitor rest).run.run s'
      | (.error why, s') => (.error why, s') := by
  rw [walk]
  simp only [bind, ExceptT.bind, ExceptT.mk, ExceptT.run, StateT.bind, StateT.run]
  rcases visitor c s with ⟨_ | _ | _, s'⟩ <;> rfl

theorem ofAnswers_run (v : Answer σ) (c : Change) (s : σ) :
    (Visitor.ofAnswers v c).run.run s =
      (((v c).run.run s).1.map (·.getD .proceed), ((v c).run.run s).2) := by
  simp only [Visitor.ofAnswers, bind, ExceptT.bind, ExceptT.mk, ExceptT.run, StateT.bind, StateT.run]
  rcases v c s with ⟨_ | _, s'⟩ <;> rfl

/-- One step of a walk: it ends with the answer to the first change, or goes on with the others. -/
theorem walk_answers_cons (v : Answer σ) (c : Change) (rest : List Change) (s : σ) :
    (walk (.ofAnswers v) (c :: rest)).run.run s =
      match ending? (answerAfter v s [] c) with
      | some outcome => (outcome, stateAfter v s [c])
      | none => (walk (.ofAnswers v) rest).run.run (stateAfter v s [c]) := by
  have hanswer : (v c).run.run s = (answerAfter v s [] c, stateAfter v s [c]) := rfl
  rw [walk_cons, ofAnswers_run, hanswer]
  rcases answerAfter v s [] c with why | _ | _ | _ <;> rfl

theorem answerAfter_noting (v : Answer σ) (s : σ) (seen : List Change) (c : Change) :
    answerAfter (noting v) (s, seen) [] c = answerAfter v s [] c := rfl

theorem stateAfter_noting (v : Answer σ) (s : σ) (seen : List Change) (c : Change) :
    stateAfter (noting v) (s, seen) [c] = (stateAfter v s [c], seen ++ [c]) := rfl

/-- **A walk is a traversal of its changes**, and a visitor that notes what it is shown notes exactly the changes of
the traversal. -/
theorem walk_traverses (v : Answer σ) (s : σ) (seen changes : List Change) :
    ∃ shown outcome, Traversal v s changes shown outcome ∧
      (walk (.ofAnswers v) changes).run.run s = (outcome, stateAfter v s shown) ∧
      (walk (.ofAnswers (noting v)) changes).run.run (s, seen) =
        (outcome, stateAfter v s shown, seen ++ shown) := by
  induction changes generalizing s seen with
  | nil => exact ⟨[], .ok (), .exhausted (goesOn_nil v s), rfl, by rw [List.append_nil]; rfl⟩
  | cons c rest ih =>
    rw [walk_answers_cons, walk_answers_cons, answerAfter_noting, stateAfter_noting]
    cases hending : ending? (answerAfter v s [] c) with
    | some outcome => exact ⟨[c], outcome, .ended [] c rest (goesOn_nil v s) hending, rfl, rfl⟩
    | none =>
      obtain ⟨shown, outcome, htraversal, hwalk, hnoting⟩ := ih (stateAfter v s [c]) (seen ++ [c])
      have hseen : seen ++ c :: shown = seen ++ [c] ++ shown := List.append_cons seen c shown
      refine ⟨c :: shown, outcome, htraversal.cons hending, ?_, ?_⟩
      · rw [stateAfter_cons v s c shown]
        exact hwalk
      · rw [stateAfter_cons v s c shown, hseen]
        exact hnoting

/-! ## Visiting -/

theorem visit_of_unknown {history : List Change} {ref : String} (visitor : Visitor σ)
    (hunknown : ∀ c ∈ history, c.ref ≠ ref) (s : σ) :
    (visit history ref visitor).run.run s = (.error (.unknownReference ref), s) := by
  rw [visit, since_eq_nil hunknown]
  rfl

theorem visit_of_since {history older : List Change} {ref : String} {c : Change} (visitor : Visitor σ)
    (hsince : since history ref = c :: older) : visit history ref visitor = walk visitor (c :: older) := by
  rw [visit, hsince]

end Visiting

/-- Without a change of a reference, looking it up and visiting it fail, and the visitor is shown nothing. Otherwise
the reference means the first change of the history that has it, and a visitor is shown that change and the older ones
in order, up to and including the first one at which it terminates or fails, or to the end of the history; its failure
is the one of the visit. -/
theorem visit_traverses (history : List Change) (ref : String) :
    ((∀ c ∈ history, c.ref ≠ ref) →
      change history ref = .error (.unknownReference ref) ∧ (Failure.unknownReference ref).kind = .repository ∧
      ∀ {σ : Type} (v : Answer σ) (s : σ),
        (visit history ref (.ofAnswers v)).run.run s = (.error (.unknownReference ref), s) ∧
        (visit history ref (.ofAnswers (noting v))).run.run (s, []) = (.error (.unknownReference ref), s, [])) ∧
    ((∃ c ∈ history, c.ref = ref) →
      ∃ newer c older, history = newer ++ c :: older ∧ (∀ d ∈ newer, d.ref ≠ ref) ∧ c.ref = ref ∧
        change history ref = .ok c ∧
        ∀ {σ : Type} (v : Answer σ) (s : σ), ∃ shown outcome,
          Traversal v s (c :: older) shown outcome ∧ shown.head? = some c ∧
          (visit history ref (.ofAnswers v)).run.run s = (outcome, stateAfter v s shown) ∧
          (visit history ref (.ofAnswers (noting v))).run.run (s, []) = (outcome, stateAfter v s shown, shown)) := by
  constructor
  · intro hunknown
    refine ⟨change_of_unknown hunknown, rfl, fun v s => ⟨?_, ?_⟩⟩
    · exact visit_of_unknown _ hunknown s
    · exact visit_of_unknown _ hunknown (s, [])
  · intro hknown
    obtain ⟨newer, c, older, hsplit, hnewer, href, hsince⟩ := since_of_mem hknown
    refine ⟨newer, c, older, hsplit, hnewer, href, IsLatest.change_eq ⟨newer, older, hsplit, hnewer, href⟩, ?_⟩
    intro σ v s
    obtain ⟨shown, outcome, htraversal, hwalk, hnoting⟩ := walk_traverses v s [] (c :: older)
    refine ⟨shown, outcome, htraversal, htraversal.head?_shown, ?_, ?_⟩
    · rw [visit_of_since _ hsince]
      exact hwalk
    · rw [visit_of_since _ hsince]
      exact hnoting

/-- A visitor that leaves its verdict open at the second change and has seen enough at the third one, which has the
reference of the first; and a reference that the history does not have. -/
theorem visit_traverses_repeated :
    let change := fun ref message => (⟨ref, ⟨"", ""⟩, message, [], none⟩ : Change)
    let history := [change "z" "0", change "x" "1", change "y" "2", change "x" "3", change "z" "4"]
    let v : Answer Nat := fun c => do
      modify (· + 1)
      if c.ref = "y" then return none
      return some (if (← get) < 3 then .proceed else .terminate)
    (∀ c ∈ history, c.ref ≠ "w") ∧ History.change history "w" = .error (.unknownReference "w") ∧
    (∃ c ∈ history, c.ref = "x") ∧
    (∃ newer c older, history = newer ++ c :: older ∧ History.change history "x" = .ok c ∧
      ∃ shown outcome, Traversal v 0 (c :: older) shown outcome ∧
        (visit history "x" (.ofAnswers (noting v))).run.run (0, []) = (outcome, stateAfter v 0 shown, shown)) ∧
    ((visit history "x" (.ofAnswers (noting v))).run.run (0, [])).2.2.map Change.message = ["1", "2", "3"] := by
  intro change history v
  have hunknown : ∀ c ∈ history, c.ref ≠ "w" := by simp [history, change]
  have hknown : ∃ c ∈ history, c.ref = "x" := ⟨change "x" "1", by simp [history], rfl⟩
  obtain ⟨newer, c, older, hsplit, -, -, hchange, hvisit⟩ := (visit_traverses history "x").2 hknown
  obtain ⟨shown, outcome, htraversal, -, -, hnoting⟩ := hvisit v 0
  refine ⟨hunknown, ((visit_traverses history "w").1 hunknown).1, hknown, ?_, rfl⟩
  exact ⟨newer, c, older, hsplit, hchange, shown, outcome, htraversal, hnoting⟩

end Transplant.History
