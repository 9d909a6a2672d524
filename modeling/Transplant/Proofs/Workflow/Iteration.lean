import Mathlib.Data.List.Nodup
import Transplant.Proofs.Workflow.Exec

/-!
# The loop over the changes

An iterative run goes through its changes position by position. `Iteration.turnAt` is the migrate call
at a position together with how it ends, `Iteration.stateAt` the state in which the loop comes to a
position, and `Iteration.Stop` lists the three ways in which it ends at one.

Main statements: at a position that stops it the loop ends with that failure in that state
(`exec_rest_stop`), past any other it goes on (`exec_rest_next`), so it reaches every position in front
of which it was never stopped (`exec_rest_reach`).
-/

namespace Transplant.Workflow

/-! ## Calls -/

/-- The view that a change gets: it is current, and the changes before it are migrated, the latest
first. -/
def viewFor (earlier : List Change) (c : Change) (fresh : c.ref ∉ earlier.map Change.ref) : Computed :=
  { current := [c]
    migrated := earlier.reverse
    disjoint := by
      intro d hd e he heq
      rw [List.mem_singleton] at he
      subst he
      exact fresh (heq ▸ List.mem_map_of_mem (List.mem_reverse.1 hd)) }

/-- The migrate call for a change whose reference does not occur among those of the changes before it. -/
def callFor (total : Nat) (earlier : List Change) (c : Change)
    (fresh : c.ref ∉ earlier.map Change.ref) : Call :=
  { ref := c.ref
    console := .labelled (positionLabel (earlier.length + 1) total c.ref) Helper.console
    metadata := ⟨c.message, c.author⟩
    view := .computed (viewFor earlier c fresh)
    baseline := none }

theorem overlap_singleton (c : Change) (earlier : List Change) :
    Computed.overlap [c] earlier.reverse =
      (earlier.reverse.map Change.ref).filter (· == c.ref) := by
  rw [Computed.overlap, List.filter_map]
  congr 2
  funext d
  simp [BEq.comm]

theorem computed_of_fresh {earlier : List Change} {c : Change}
    (fresh : c.ref ∉ earlier.map Change.ref) :
    Computed.of [c] earlier.reverse = .ok (viewFor earlier c fresh) := by
  have hnone : Computed.overlap [c] earlier.reverse = [] := by
    rw [overlap_singleton, List.filter_eq_nil_iff]
    intro ref href heq
    rw [beq_iff_eq.1 heq, List.map_reverse, List.mem_reverse] at href
    exact fresh href
  rw [Computed.of, dif_pos hnone]
  rfl

theorem computed_of_repeated {earlier : List Change} {c : Change}
    (hnodup : (earlier.map Change.ref).Nodup) (hmem : c.ref ∈ earlier.map Change.ref) :
    Computed.of [c] earlier.reverse = .error (.overlap [c.ref]) := by
  have hone : Computed.overlap [c] earlier.reverse = [c.ref] := by
    rw [overlap_singleton, List.filter_beq, List.map_reverse, List.count_reverse,
      List.count_eq_one_of_mem hnodup hmem]
    rfl
  rw [Computed.of, dif_neg (by simp [hone]), hone]

/-! ## One change -/

/-- The question whether to go on after a change. -/
def continuationQuestion : String :=
  "Continue importing next change?"

/-- The text with which a run ends after a change when the operator does not want to go on. -/
def abortMessage (label : String) : String :=
  "Iterative workflow aborted by user after: " ++ label

theorem exec_attempt_fresh (h : Helper) (total : Nat) {earlier : List Change} {c : Change}
    (fresh : c.ref ∉ earlier.map Change.ref) (r : Run) :
    (attempt h (positionLabel (earlier.length + 1) total c.ref) c earlier.reverse).exec r =
      match ((h.write (callFor total earlier c fresh)).exec r).1 with
      | .ok answer => (.ok (.written answer), ((h.write (callFor total earlier c fresh)).exec r).2)
      | .error why =>
        if why.kind.isA .emptyChange then
          (.ok .empty, ((h.write (callFor total earlier c fresh)).exec r).2.record
            [ .said .warn why.message
            , .logged ⟨.warning, some Mode.iterative.component,
                positionLabel (earlier.length + 1) total c.ref ++ why.message⟩ ])
        else (.error why, ((h.write (callFor total earlier c fresh)).exec r).2) := by
  have hone : (migrateOne h (positionLabel (earlier.length + 1) total c.ref) c earlier.reverse).exec r =
      (h.write (callFor total earlier c fresh)).exec r := by
    rw [migrateOne, exec_bind_ok (exec_settle_ok (computed_of_fresh fresh) r)]
    rfl
  rw [attempt, exec_tryCatch, exec_map, hone]
  cases ((h.write (callFor total earlier c fresh)).exec r).1 with
  | ok answer => rfl
  | error why =>
    dsimp only [Except.map]
    split_ifs with hempty
    · rw [exec_bind_ok (exec_say ..), exec_bind_ok (exec_log ..), exec_pure, record_record]
      rfl
    · rfl

theorem exec_attempt_repeated (h : Helper) (label : String) {earlier : List Change} {c : Change}
    (hnodup : (earlier.map Change.ref).Nodup) (hmem : c.ref ∈ earlier.map Change.ref) (r : Run) :
    (attempt h label c earlier.reverse).exec r = (.error (.overlap [c.ref]), r) := by
  have hone : (migrateOne h label c earlier.reverse).exec r = (.error (.overlap [c.ref]), r) := by
    rw [migrateOne, exec_bind_error (exec_settle_error (computed_of_repeated hnodup hmem) r)]
  rw [attempt, exec_tryCatch, exec_map, hone]
  rfl

theorem exec_confirmContinuation (label : String) (migrated : List String) (last : String) (r : Run) :
    (confirmContinuation label migrated last).exec r =
      if r.nextAnswer then (.ok (), r.answer continuationQuestion)
      else (.error (.rejected (abortMessage label) migrated (some last)),
        (r.answer continuationQuestion).record [.said .warn (abortMessage label)]) := by
  rw [confirmContinuation, exec_bind_ok (exec_ask ..)]
  cases r.nextAnswer with
  | true => rfl
  | false => rfl

/-! ## Turns -/

/-- A migrate call of a run, how it ended and the state that it left behind. -/
structure Turn where
  call : Call
  outcome : Except Failure Written
  after : Run

/-- Whether the call of a turn returned. -/
def Turn.isWritten (t : Turn) : Bool :=
  match t.outcome with
  | .ok _ => true
  | .error _ => false

/-- Whether the call of a turn failed for want of an effect. -/
def Turn.isEmpty (t : Turn) : Bool :=
  match t.outcome with
  | .ok _ => false
  | .error why => why.kind.isA .emptyChange

/-- The references of the calls that returned. -/
def writtenRefs (turns : List Turn) : List String :=
  (turns.filter Turn.isWritten).map (·.call.ref)

/-- The references of the calls that failed for want of an effect. -/
def emptyRefs (turns : List Turn) : List String :=
  (turns.filter Turn.isEmpty).map (·.call.ref)

/-- What the loop runs against, the changes that it goes through and the state in which it begins. -/
structure Iteration where
  helper : Helper
  changes : List Change
  start : Run

namespace Iteration

variable (it : Iteration)

/-- The label of the change at a position; positions are counted from zero and labels from one. -/
def label (k : Nat) (ref : String) : String :=
  positionLabel (k + 1) it.changes.length ref

/-- The turn at a position to which the loop comes in a given state. There is none past the last change
and none for a reference that occurred before. -/
def turnFrom (k : Nat) (r : Run) : Option Turn :=
  match it.changes[k]? with
  | none => none
  | some c =>
    if fresh : c.ref ∉ (it.changes.take k).map Change.ref then
      let call := callFor it.changes.length (it.changes.take k) c fresh
      some ⟨call, ((it.helper.write call).exec r).1, ((it.helper.write call).exec r).2⟩
    else none

/-- The state in which the loop goes on after a turn. A change without effect is reported, and where the
call asked for it, and another change is left, the operator has agreed. -/
def goOn (k : Nat) (t : Turn) : Run :=
  match t.outcome with
  | .ok .ok => t.after
  | .ok .promptToContinue =>
    if k + 1 < it.changes.length then t.after.answer continuationQuestion else t.after
  | .error why => t.after.record
      [ .said .warn why.message
      , .logged ⟨.warning, some Mode.iterative.component, it.label k t.call.ref ++ why.message⟩ ]

/-- The state in which the loop comes to a position. -/
def stateAt : Nat → Run
  | 0 => it.start
  | k + 1 =>
    match it.turnFrom k (stateAt k) with
    | some t => it.goOn k t
    | none => stateAt k

/-- The turn at a position. -/
def turnAt (k : Nat) : Option Turn :=
  it.turnFrom k (it.stateAt k)

/-- The turns at the positions below a bound. -/
def turns (n : Nat) : List Turn :=
  (List.range n).filterMap it.turnAt

/-- What the loop has to report when it comes to a position. -/
def resultAt (k : Nat) : Result :=
  { mode := .iterative
    migrated := writtenRefs (it.turns k)
    skippedEmpty := emptyRefs (it.turns k) }

/-- The ways in which the loop ends at a position: how many calls were made by then, with which failure
and in which state. -/
inductive Stop (k : Nat) : (calls : Nat) → Failure → Run → Prop where
  /-- The reference of the change occurred before: there is no call. -/
  | repeated {c : Change} (hc : it.changes[k]? = some c)
      (hmem : c.ref ∈ (it.changes.take k).map Change.ref) :
      Stop k k (.overlap [c.ref]) (it.stateAt k)
  /-- The call fails, and not for want of an effect: nothing happens after it. -/
  | failed {t : Turn} {why : Failure} (ht : it.turnAt k = some t) (hfail : t.outcome = .error why)
      (hkind : why.kind.isA .emptyChange = false) :
      Stop k (k + 1) why t.after
  /-- The call asks for consent, another change is left and the operator declines. -/
  | declined {t : Turn} (ht : it.turnAt k = some t) (hprompt : t.outcome = .ok .promptToContinue)
      (hleft : k + 1 < it.changes.length) (hno : t.after.nextAnswer = false) :
      Stop k (k + 1)
        (.rejected (abortMessage (it.label k t.call.ref)) (writtenRefs (it.turns (k + 1)))
          (some t.call.ref))
        ((t.after.answer continuationQuestion).record
          [.said .warn (abortMessage (it.label k t.call.ref))])

/-- Whether the loop ends at a position to which it comes. -/
def StopsAt (k : Nat) : Prop :=
  ∃ calls why final, it.Stop k calls why final

/-- Whether the loop gets past a position, read off its turn. -/
def passes (k : Nat) : Bool :=
  match it.turnAt k with
  | none => decide (it.changes.length ≤ k)
  | some t =>
    match t.outcome with
    | .ok .ok => true
    | .ok .promptToContinue => !decide (k + 1 < it.changes.length) || t.after.nextAnswer
    | .error why => why.kind.isA .emptyChange

/-- What is left of the loop at a position. -/
def rest (k : Nat) : Act Result :=
  iterateFrom it.helper it.changes.length (k + 1) (it.changes.take k).reverse (it.resultAt k)
    (it.changes.drop k)

variable {it}

/-! ## Facts on turns -/

theorem turnAt_of_fresh {k : Nat} {c : Change} (hc : it.changes[k]? = some c)
    (fresh : c.ref ∉ (it.changes.take k).map Change.ref) :
    ∃ t, it.turnAt k = some t ∧ t.call = callFor it.changes.length (it.changes.take k) c fresh ∧
      (it.helper.write t.call).exec (it.stateAt k) = (t.outcome, t.after) := by
  let call := callFor it.changes.length (it.changes.take k) c fresh
  let ended := (it.helper.write call).exec (it.stateAt k)
  refine ⟨⟨call, ended.1, ended.2⟩, ?_, rfl, rfl⟩
  rw [turnAt, turnFrom, hc]
  exact dif_pos fresh

theorem turnAt_of_repeated {k : Nat} {c : Change} (hc : it.changes[k]? = some c)
    (hmem : c.ref ∈ (it.changes.take k).map Change.ref) : it.turnAt k = none := by
  rw [turnAt, turnFrom, hc]
  exact dif_neg (not_not_intro hmem)

/-- A turn is the call for the change at its position, made in the state in which the loop comes there. -/
theorem turnAt_eq_some {k : Nat} {t : Turn} (ht : it.turnAt k = some t) :
    ∃ (c : Change) (fresh : c.ref ∉ (it.changes.take k).map Change.ref),
      it.changes[k]? = some c ∧ t.call = callFor it.changes.length (it.changes.take k) c fresh ∧
        (it.helper.write t.call).exec (it.stateAt k) = (t.outcome, t.after) := by
  cases hc : it.changes[k]? with
  | none => simp [turnAt, turnFrom, hc] at ht
  | some c =>
    by_cases fresh : c.ref ∉ (it.changes.take k).map Change.ref
    · obtain ⟨t', ht', hcall, hexec⟩ := turnAt_of_fresh hc fresh
      rw [ht, Option.some.injEq] at ht'
      subst ht'
      exact ⟨c, fresh, rfl, hcall, hexec⟩
    · rw [turnAt_of_repeated hc (not_not.1 fresh)] at ht
      cases ht

theorem ref_of_turnAt {k : Nat} {c : Change} {t : Turn} (ht : it.turnAt k = some t)
    (hc : it.changes[k]? = some c) : t.call.ref = c.ref := by
  obtain ⟨d, fresh, hd, hcall, -⟩ := turnAt_eq_some ht
  obtain rfl : c = d := Option.some.inj (hc.symm.trans hd)
  rw [hcall]
  rfl

theorem stateAt_succ {k : Nat} {t : Turn} (ht : it.turnAt k = some t) :
    it.stateAt (k + 1) = it.goOn k t := by
  rw [turnAt] at ht
  rw [stateAt, ht]

theorem turns_add_one (k : Nat) : it.turns (k + 1) = it.turns k ++ (it.turnAt k).toList := by
  rw [turns, turns, List.range_succ, List.filterMap_append]
  cases ht : it.turnAt k <;> simp [ht]

theorem turns_succ {k : Nat} {t : Turn} (ht : it.turnAt k = some t) :
    it.turns (k + 1) = it.turns k ++ [t] := by
  rw [turns_add_one, ht, Option.toList_some]

theorem turns_succ_of_none {k : Nat} (ht : it.turnAt k = none) : it.turns (k + 1) = it.turns k := by
  rw [turns_add_one, ht, Option.toList_none, List.append_nil]

/-! ## One position -/

theorem length_take_of_getElem? {k : Nat} {c : Change} (hc : it.changes[k]? = some c) :
    (it.changes.take k).length = k := by
  obtain ⟨hk, -⟩ := List.getElem?_eq_some_iff.1 hc
  rw [List.length_take]
  omega

theorem rest_eq_cons {k : Nat} {c : Change} (hc : it.changes[k]? = some c) :
    it.rest k = iterateFrom it.helper it.changes.length (k + 1) (it.changes.take k).reverse
      (it.resultAt k) (c :: it.changes.drop (k + 1)) := by
  obtain ⟨hk, hget⟩ := List.getElem?_eq_some_iff.1 hc
  rw [rest, List.drop_eq_getElem_cons hk, hget]

theorem exec_attempt_turn {k : Nat} {c : Change} {t : Turn} (hc : it.changes[k]? = some c)
    (ht : it.turnAt k = some t) :
    (attempt it.helper (positionLabel (k + 1) it.changes.length c.ref) c
        (it.changes.take k).reverse).exec (it.stateAt k) =
      match t.outcome with
      | .ok answer => (.ok (.written answer), t.after)
      | .error why =>
        if why.kind.isA .emptyChange then (.ok .empty, it.goOn k t) else (.error why, t.after) := by
  obtain ⟨d, fresh, hd, hcall, hexec⟩ := turnAt_eq_some ht
  rw [hc, Option.some.injEq] at hd
  subst hd
  have hlen := length_take_of_getElem? hc
  have hattempt := exec_attempt_fresh it.helper it.changes.length fresh (it.stateAt k)
  rw [hlen, ← hcall, hexec] at hattempt
  rw [hattempt]
  cases houtcome : t.outcome with
  | ok answer => rfl
  | error why => simp only [goOn, houtcome, label, hcall, callFor]

/-- **At a position that stops it the loop ends** with that failure and in that state. -/
theorem exec_rest_stop {k calls : Nat} {why : Failure} {final : Run}
    (hnodup : ((it.changes.take k).map Change.ref).Nodup) (hstop : it.Stop k calls why final) :
    (it.rest k).exec (it.stateAt k) = (.error why, final) := by
  cases hstop with
  | repeated hc hmem =>
    rw [rest_eq_cons hc, iterateFrom, exec_bind_error (exec_attempt_repeated _ _ hnodup hmem _)]
  | failed ht hfail hkind =>
    obtain ⟨c, -, hc, -⟩ := turnAt_eq_some ht
    have hattempt := exec_attempt_turn hc ht
    simp only [hfail, hkind] at hattempt
    rw [rest_eq_cons hc, iterateFrom, exec_bind_error hattempt]
  | @declined t ht hprompt hleft hno =>
    obtain ⟨c, -, hc, -⟩ := turnAt_eq_some ht
    have href := ref_of_turnAt ht hc
    have hattempt := exec_attempt_turn hc ht
    simp only [hprompt] at hattempt
    have hconfirm := exec_confirmContinuation (it.label k c.ref)
      (writtenRefs (it.turns k) ++ [c.ref]) c.ref t.after
    rw [hno, if_neg Bool.false_ne_true] at hconfirm
    have hwritten : writtenRefs (it.turns (k + 1)) = writtenRefs (it.turns k) ++ [c.ref] := by
      simp [turns_succ ht, writtenRefs, Turn.isWritten, hprompt, href]
    rw [rest_eq_cons hc, iterateFrom, exec_bind_ok hattempt, hwritten, href]
    simp only [hleft, decide_true, beq_self_eq_true, Bool.and_self, if_true]
    exact exec_bind_error hconfirm _

theorem resultAt_succ_written {k : Nat} {t : Turn} {answer : Written} (ht : it.turnAt k = some t)
    (hanswer : t.outcome = .ok answer) :
    it.resultAt (k + 1) =
      { it.resultAt k with migrated := (it.resultAt k).migrated ++ [t.call.ref] } := by
  simp [resultAt, turns_succ ht, writtenRefs, emptyRefs, Turn.isWritten, Turn.isEmpty, hanswer]

theorem resultAt_succ_empty {k : Nat} {t : Turn} {why : Failure} (ht : it.turnAt k = some t)
    (hfail : t.outcome = .error why) (hkind : why.kind.isA .emptyChange = true) :
    it.resultAt (k + 1) =
      { it.resultAt k with skippedEmpty := (it.resultAt k).skippedEmpty ++ [t.call.ref] } := by
  simp [resultAt, turns_succ ht, writtenRefs, emptyRefs, Turn.isWritten, Turn.isEmpty, hfail, hkind]

/-- A position that does not stop the loop has a turn, which was written without need for consent or with
consent, or was empty. -/
theorem turn_of_pass {k : Nat} (hk : k < it.changes.length) (hpass : ¬ it.StopsAt k) :
    ∃ t, it.turnAt k = some t ∧
      (t.outcome = .ok .ok ∨
        (t.outcome = .ok .promptToContinue ∧
          (k + 1 < it.changes.length → t.after.nextAnswer = true)) ∨
        ∃ why, t.outcome = .error why ∧ why.kind.isA .emptyChange = true) := by
  have hc : it.changes[k]? = some it.changes[k] := List.getElem?_eq_getElem hk
  by_cases fresh : it.changes[k].ref ∉ (it.changes.take k).map Change.ref
  · obtain ⟨t, ht, -, -⟩ := turnAt_of_fresh hc fresh
    refine ⟨t, ht, ?_⟩
    rcases houtcome : t.outcome with why | _ | _
    · refine Or.inr (Or.inr ⟨why, rfl, ?_⟩)
      by_contra hkind
      exact hpass ⟨_, _, _, .failed ht houtcome (Bool.not_eq_true _ ▸ hkind)⟩
    · exact Or.inl rfl
    · refine Or.inr (Or.inl ⟨rfl, fun hleft => ?_⟩)
      by_contra hno
      exact hpass ⟨_, _, _, .declined ht houtcome hleft (Bool.not_eq_true _ ▸ hno)⟩
  · exact absurd ⟨_, _, _, .repeated hc (not_not.1 fresh)⟩ hpass

theorem stopsAt_iff {k : Nat} : it.StopsAt k ↔ it.passes k = false := by
  constructor
  · rintro ⟨calls, why, final, hstop⟩
    cases hstop with
    | repeated hc hmem =>
      obtain ⟨hk, -⟩ := List.getElem?_eq_some_iff.1 hc
      simp only [passes, turnAt_of_repeated hc hmem, decide_eq_false_iff_not]
      omega
    | failed ht hfail hkind => simp only [passes, ht, hfail, hkind]
    | declined ht hprompt hleft hno => simp [passes, ht, hprompt, hleft, hno]
  · intro hpasses
    by_contra hpass
    by_cases hk : k < it.changes.length
    · obtain ⟨t, ht, hok | ⟨hprompt, hyes⟩ | ⟨why, hfail, hkind⟩⟩ := turn_of_pass hk hpass
      · simp [passes, ht, hok] at hpasses
      · simp only [passes, ht, hprompt, Bool.or_eq_false_iff] at hpasses
        obtain ⟨hleft, hno⟩ := hpasses
        rw [hyes (by simpa using hleft)] at hno
        cases hno
      · simp [passes, ht, hfail, hkind] at hpasses
    · have hnone : it.turnAt k = none := by
        rw [turnAt, turnFrom, List.getElem?_eq_none (by omega)]
      simp only [passes, hnone, decide_eq_false_iff_not] at hpasses
      omega

instance : DecidablePred it.StopsAt := fun _ =>
  decidable_of_iff _ stopsAt_iff.symm

/-- **Past a position that does not stop it the loop goes on** from the next one. -/
theorem exec_rest_next {k : Nat} (hk : k < it.changes.length) (hpass : ¬ it.StopsAt k) :
    (it.rest k).exec (it.stateAt k) = (it.rest (k + 1)).exec (it.stateAt (k + 1)) := by
  obtain ⟨t, ht, hgo⟩ := turn_of_pass hk hpass
  obtain ⟨c, -, hc, -⟩ := turnAt_eq_some ht
  have href := ref_of_turnAt ht hc
  have hattempt := exec_attempt_turn hc ht
  have hbefore : (it.changes.take (k + 1)).reverse = c :: (it.changes.take k).reverse := by
    rw [List.take_add_one, hc]
    simp
  rw [rest_eq_cons hc, rest, iterateFrom, hbefore, stateAt_succ ht]
  -- the turn decides which arm of the loop runs: written, written and asking for consent, or empty
  rcases hgo with hok | ⟨hprompt, hyes⟩ | ⟨why, hfail, hkind⟩
  · simp only [hok] at hattempt
    rw [exec_bind_ok hattempt, resultAt_succ_written ht hok, goOn, hok, ← href]
    rfl
  · simp only [hprompt] at hattempt
    rw [exec_bind_ok hattempt, resultAt_succ_written ht hprompt, goOn, hprompt, ← href]
    by_cases hleft : k + 1 < it.changes.length
    · have hconfirm := exec_confirmContinuation (it.label k t.call.ref)
        ((it.resultAt k).migrated ++ [t.call.ref]) t.call.ref t.after
      rw [hyes hleft, if_pos rfl] at hconfirm
      simp only [hleft, decide_true, beq_self_eq_true, Bool.and_self, if_true]
      exact exec_bind_ok hconfirm _
    · simp [hleft]
  · simp only [hfail, hkind, if_true] at hattempt
    rw [exec_bind_ok hattempt, resultAt_succ_empty ht hfail hkind, ← href]

/-! ## The whole loop -/

/-- References up to a position that no earlier one stopped are distinct. -/
theorem nodup_take {k : Nat} (hk : k ≤ it.changes.length) (hpass : ∀ j < k, ¬ it.StopsAt j) :
    ((it.changes.take k).map Change.ref).Nodup := by
  induction k with
  | zero => simp
  | succ k ih =>
    -- a change that repeats a reference has no turn and would have stopped the loop
    obtain ⟨t, ht, -⟩ := turn_of_pass hk (hpass k (Nat.lt_succ_self k))
    obtain ⟨c, fresh, hc, -, -⟩ := turnAt_eq_some ht
    have hbefore := ih (Nat.le_of_succ_le hk) fun j hj => hpass j (Nat.lt_succ_of_lt hj)
    rw [List.take_add_one, hc, List.map_append]
    exact hbefore.append (by simp) (by simpa using fresh)

/-- **The loop reaches every position in front of which nothing stopped it.** -/
theorem exec_rest_reach {k : Nat} (hk : k ≤ it.changes.length) (hpass : ∀ j < k, ¬ it.StopsAt j) :
    (it.rest 0).exec it.start = (it.rest k).exec (it.stateAt k) := by
  induction k with
  | zero => rfl
  | succ k ih =>
    have hreach := ih (Nat.le_of_succ_le hk) fun j hj => hpass j (Nat.lt_succ_of_lt hj)
    rw [hreach, exec_rest_next hk (hpass k (Nat.lt_succ_self k))]

theorem exec_rest_end :
    (it.rest it.changes.length).exec (it.stateAt it.changes.length) =
      (.ok { it.resultAt it.changes.length with completed := true },
        it.stateAt it.changes.length) := by
  rw [rest, List.drop_length, iterateFrom, exec_pure]

/-! ## Its events -/

theorem view_callFor (total : Nat) (earlier : List Change) (c : Change)
    (fresh : c.ref ∉ earlier.map Change.ref) :
    (callFor total earlier c fresh).view = .computed (viewFor earlier c fresh) := rfl

theorem since_turn {k : Nat} {t : Turn} (ht : it.turnAt k = some t) :
    Since (it.stateAt k) t.after 0 [t.call] := by
  obtain ⟨c, fresh, -, hcall, hexec⟩ := turnAt_eq_some ht
  have hwrite := Since.write (h := it.helper)
    (view_callFor it.changes.length (it.changes.take k) c fresh) (it.stateAt k)
  rw [← hcall, hexec] at hwrite
  exact hwrite

theorem since_goOn (k : Nat) (t : Turn) : Since t.after (it.goOn k t) 0 [] := by
  rw [goOn]
  split
  · exact Since.refl _
  · split_ifs
    · exact Since.answer _ _
    · exact Since.refl _
  · exact Since.record _ _

/-- The calls on the way to a position are those of its turns. -/
theorem since_stateAt (it : Iteration) (k : Nat) :
    Since it.start (it.stateAt k) 0 ((it.turns k).map Turn.call) := by
  induction k with
  | zero => exact Since.refl _
  | succ k ih =>
    cases ht : it.turnAt k with
    | none =>
      have hstay : it.stateAt (k + 1) = it.stateAt k := by
        rw [turnAt] at ht
        rw [stateAt, ht]
      rw [hstay, turns_succ_of_none ht]
      exact ih
    | some t =>
      rw [stateAt_succ ht, turns_succ ht, List.map_append]
      simpa using ih.trans ((since_turn ht).trans (since_goOn k t))

/-- The calls up to a position that stops the loop are those of its turns and its own. -/
theorem since_stop {k calls : Nat} {why : Failure} {final : Run} (hstop : it.Stop k calls why final) :
    Since it.start final 0 ((it.turns (k + 1)).map Turn.call) := by
  have hreach := since_stateAt it k
  cases hstop with
  | repeated hc hmem =>
    rw [turns_succ_of_none (turnAt_of_repeated hc hmem)]
    exact hreach
  | failed ht hfail hkind =>
    rw [turns_succ ht, List.map_append]
    simpa using hreach.trans (since_turn ht)
  | @declined t ht hprompt hleft hno =>
    have hwarn : Since (t.after.answer continuationQuestion) _ 0 [] :=
      Since.record _ [.said .warn (abortMessage (it.label k t.call.ref))]
    rw [turns_succ ht, List.map_append]
    simpa using hreach.trans ((since_turn ht).trans ((Since.answer _ _).trans hwarn))

/-! ## Turns in front of a stop -/

theorem length_turns {n : Nat} (hn : n ≤ it.changes.length) (hpass : ∀ j < n, ¬ it.StopsAt j) :
    (it.turns n).length = n := by
  induction n with
  | zero => rfl
  | succ n ih =>
    obtain ⟨t, ht, -⟩ := turn_of_pass hn (hpass n (Nat.lt_succ_self n))
    have hbefore := ih (Nat.le_of_succ_le hn) fun j hj => hpass j (Nat.lt_succ_of_lt hj)
    rw [turns_succ ht, List.length_append, hbefore, List.length_singleton]

theorem refs_turns_succ {k : Nat} {t : Turn} (ht : it.turnAt k = some t)
    (hbefore : (it.turns k).map (·.call.ref) = (it.changes.take k).map Change.ref) :
    (it.turns (k + 1)).map (·.call.ref) = (it.changes.take (k + 1)).map Change.ref := by
  obtain ⟨c, -, hc, -⟩ := turnAt_eq_some ht
  rw [turns_succ ht, List.map_append, hbefore, List.take_add_one, hc, List.map_append]
  simp [ref_of_turnAt ht hc]

theorem refs_turns {n : Nat} (hn : n ≤ it.changes.length) (hpass : ∀ j < n, ¬ it.StopsAt j) :
    (it.turns n).map (·.call.ref) = (it.changes.take n).map Change.ref := by
  induction n with
  | zero => rfl
  | succ n ih =>
    obtain ⟨t, ht, -⟩ := turn_of_pass hn (hpass n (Nat.lt_succ_self n))
    exact refs_turns_succ ht (ih (Nat.le_of_succ_le hn) fun j hj => hpass j (Nat.lt_succ_of_lt hj))

theorem lt_of_turnAt {k : Nat} {t : Turn} (ht : it.turnAt k = some t) : k < it.changes.length := by
  obtain ⟨c, -, hc, -⟩ := turnAt_eq_some ht
  exact (List.getElem?_eq_some_iff.1 hc).1

theorem Stop.lt {k calls : Nat} {why : Failure} {final : Run} (hstop : it.Stop k calls why final) :
    k < it.changes.length := by
  cases hstop with
  | repeated hc hmem => exact (List.getElem?_eq_some_iff.1 hc).1
  | failed ht hfail hkind => exact lt_of_turnAt ht
  | declined ht hprompt hleft hno => exact lt_of_turnAt ht

theorem refs_turns_stop {k calls : Nat} {why : Failure} {final : Run}
    (hpass : ∀ j < k, ¬ it.StopsAt j) (hstop : it.Stop k calls why final) :
    (it.turns (k + 1)).map (·.call.ref) = (it.changes.take calls).map Change.ref := by
  have hbefore := refs_turns (Nat.le_of_lt hstop.lt) hpass
  cases hstop with
  | repeated hc hmem => rw [turns_succ_of_none (turnAt_of_repeated hc hmem), hbefore]
  | failed ht hfail hkind => exact refs_turns_succ ht hbefore
  | declined ht hprompt hleft hno => exact refs_turns_succ ht hbefore

/-- Turns stand at their positions, as long as nothing stopped the loop in front of the last one. -/
theorem turnAt_of_getElem?_turns {n k : Nat} {t : Turn} (hn : n ≤ it.changes.length + 1)
    (hpass : ∀ j, j + 1 < n → ¬ it.StopsAt j) (ht : (it.turns n)[k]? = some t) :
    k < n ∧ it.turnAt k = some t := by
  -- the last position may be the one that stops, with a turn or without; all before it have one
  induction n with
  | zero => simp [turns] at ht
  | succ n ih =>
    have hlen := length_turns (Nat.le_of_succ_le_succ hn) fun j hj => hpass j (Nat.succ_lt_succ hj)
    rw [turns_add_one] at ht
    rcases Nat.lt_or_ge k n with hk | hk
    · rw [List.getElem?_append_left (by omega)] at ht
      have hbefore := ih (Nat.le_of_succ_le hn) (fun j hj => hpass j (Nat.lt_succ_of_lt hj)) ht
      exact ⟨Nat.lt_succ_of_lt hk, hbefore.2⟩
    · rw [List.getElem?_append_right (by omega), hlen] at ht
      cases hlast : it.turnAt n with
      | none => simp [hlast] at ht
      | some t' =>
        rw [hlast, Option.toList_some, List.getElem?_singleton] at ht
        split_ifs at ht with hzero
        obtain rfl : k = n := by omega
        exact ⟨Nat.lt_succ_self k, hlast.trans ht⟩

end Iteration

end Transplant.Workflow
