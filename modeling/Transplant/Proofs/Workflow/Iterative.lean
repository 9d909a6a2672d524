import Mathlib.Data.Nat.Find
import Transplant.Proofs.Workflow.Iteration

/-!
# Iterative runs

Once the history has answered, an iterative run is the loop over its changes, which ends at the first
position that stops it or behind the last one.

Main statements: which calls a run makes and why it ends (`iterative_calls_until_stop`), how its result
or its rejection accounts for every change (`iterative_accounts`), and what each call is given
(`iterative_call_given`). What is told of each position of a run is told of the run (`Iteration.Tells`).
-/

namespace Transplant.Workflow

/-- The loop of an iterative run after the history has answered with some changes. -/
def Iteration.of (h : Helper) (run : Run) (changes : List Change) : Iteration :=
  { helper := h
    changes := changes
    start := run.record
      [ .history
      , .logged ⟨.info, some Mode.iterative.component,
          "Importing " ++ Text.decimal changes.length ++ " change(s) iteratively"⟩ ] }

section

variable {h : Helper} {run : Run} {changes : List Change}

theorem exec_iterative (hchanges : h.changesSinceLastImport (run.log ++ [.history]) = .ok changes) :
    (iterative h).exec run =
      ((Iteration.of h run changes).rest 0).exec (Iteration.of h run changes).start := by
  have himport := exec_importedChanges h run
  rw [hchanges] at himport
  rw [iterative, exec_bind_ok himport, exec_bind_ok (exec_log ..), record_record]
  rfl

theorem exec_iterative_error {why : Failure}
    (hfail : h.changesSinceLastImport (run.log ++ [.history]) = .error why) :
    (iterative h).exec run = (.error why, run.record [.history]) := by
  have himport := exec_importedChanges h run
  rw [hfail] at himport
  rw [iterative, exec_bind_error himport]

theorem since_of (h : Helper) (run : Run) (changes : List Change) :
    Since run (Iteration.of h run changes).start 1 [] :=
  Since.record run _

theorem exec_iterative_stop
    (hchanges : h.changesSinceLastImport (run.log ++ [.history]) = .ok changes)
    {k calls : Nat} {why : Failure} {final : Run}
    (hpass : ∀ j < k, ¬ (Iteration.of h run changes).StopsAt j)
    (hstop : (Iteration.of h run changes).Stop k calls why final) :
    (iterative h).exec run = (.error why, final) ∧
      Since run final 1 (((Iteration.of h run changes).turns (k + 1)).map Turn.call) := by
  have hk := Nat.le_of_lt hstop.lt
  constructor
  · rw [exec_iterative hchanges, Iteration.exec_rest_reach hk hpass,
      Iteration.exec_rest_stop (Iteration.nodup_take hk hpass) hstop]
  · exact (since_of h run changes).trans (Iteration.since_stop hstop)

theorem exec_iterative_end
    (hchanges : h.changesSinceLastImport (run.log ++ [.history]) = .ok changes)
    (hpass : ∀ j < changes.length, ¬ (Iteration.of h run changes).StopsAt j) :
    (iterative h).exec run =
        (.ok { (Iteration.of h run changes).resultAt changes.length with completed := true },
          (Iteration.of h run changes).stateAt changes.length) ∧
      Since run ((Iteration.of h run changes).stateAt changes.length) 1
        (((Iteration.of h run changes).turns changes.length).map Turn.call) := by
  constructor
  · rw [exec_iterative hchanges, Iteration.exec_rest_reach (Nat.le_refl _) hpass]
    exact Iteration.exec_rest_end
  · exact (since_of h run changes).trans (Iteration.since_stateAt _ _)

/-- A run ends at the first position that stops it, or behind the last one. -/
theorem exists_first_stop (it : Iteration) :
    (∃ k calls why final, (∀ j < k, ¬ it.StopsAt j) ∧ it.Stop k calls why final) ∨
      ∀ j < it.changes.length, ¬ it.StopsAt j := by
  by_cases hstop : ∃ k, it.StopsAt k
  · obtain ⟨calls, why, final, hfirst⟩ := Nat.find_spec hstop
    exact Or.inl ⟨Nat.find hstop, calls, why, final, fun j hj => Nat.find_min hstop hj, hfirst⟩
  · exact Or.inr fun j _ hj => hstop ⟨j, hj⟩

end

/-! ## Position by position -/

/-- What happens between two states is told by `R`, one thing behind another, and at each position that the loop
comes to, whether it goes on from there or not, these pieces are what happens. -/
structure Iteration.Tells {α : Type} (it : Iteration) (R : Run → Run → List α → Prop)
    (pieces : Nat → List α) : Prop where
  refl : ∀ r, R r r []
  trans : ∀ {r s t first second}, R r s first → R s t second → R r t (first ++ second)
  passed : ∀ {k}, k < it.changes.length → ¬ it.StopsAt k → R (it.stateAt k) (it.stateAt (k + 1)) (pieces k)
  stopped : ∀ {k calls why final}, it.Stop k calls why final → R (it.stateAt k) final (pieces k)

section

variable {α : Type} {R : Run → Run → List α → Prop} {pieces : Nat → List α}
variable {h : Helper} {run : Run} {changes : List Change}

/-- On the way to a position there is what happens at all positions in front of it. -/
theorem Iteration.Tells.stateAt {it : Iteration} (htells : it.Tells R pieces) {k : Nat}
    (hk : k ≤ it.changes.length) (hpass : ∀ j < k, ¬ it.StopsAt j) :
    R it.start (it.stateAt k) ((List.range k).flatMap pieces) := by
  induction k with
  | zero => exact htells.refl _
  | succ k ih =>
    have hbefore := ih (Nat.le_of_succ_le hk) fun j hj => hpass j (Nat.lt_succ_of_lt hj)
    rw [List.range_succ, List.flatMap_append, List.flatMap_singleton]
    exact htells.trans hbefore (htells.passed hk (hpass k (Nat.lt_succ_self k)))

/-- In a run that a position stops there is what happens up to that position. -/
theorem Iteration.Tells.iterative_stop (htells : (Iteration.of h run changes).Tells R pieces)
    (hstart : R run (Iteration.of h run changes).start [])
    (hchanges : h.changesSinceLastImport (run.log ++ [.history]) = .ok changes)
    {k : Nat} (hpass : ∀ j < k, ¬ (Iteration.of h run changes).StopsAt j)
    (hstops : (Iteration.of h run changes).StopsAt k) :
    R run ((iterative h).exec run).2 ((List.range (k + 1)).flatMap pieces) := by
  obtain ⟨calls, why, final, hstop⟩ := hstops
  have hreach := htells.trans hstart (htells.stateAt (Nat.le_of_lt hstop.lt) hpass)
  rw [(exec_iterative_stop hchanges hpass hstop).1, List.range_succ, List.flatMap_append,
    List.flatMap_singleton]
  exact htells.trans hreach (htells.stopped hstop)

/-- In a run that no position stops there is what happens at all positions. -/
theorem Iteration.Tells.iterative_end (htells : (Iteration.of h run changes).Tells R pieces)
    (hstart : R run (Iteration.of h run changes).start [])
    (hchanges : h.changesSinceLastImport (run.log ++ [.history]) = .ok changes)
    (hpass : ∀ k < changes.length, ¬ (Iteration.of h run changes).StopsAt k) :
    R run ((iterative h).exec run).2 ((List.range changes.length).flatMap pieces) := by
  rw [(exec_iterative_end hchanges hpass).1]
  exact htells.trans hstart (htells.stateAt (Nat.le_refl _) hpass)

end

/-! ## Calls -/

/-- **An iterative run asks for the history once and makes the calls for the changes in their order, up
to the first position that stops it**: it ends there with the failure and in the state of that stop. If
no position stops it, it makes a call for every change and returns. -/
theorem iterative_calls_until_stop (h : Helper) (run : Run) (changes : List Change)
    (hchanges : h.changesSinceLastImport (run.log ++ [.history]) = .ok changes) :
    let it := Iteration.of h run changes
    (∀ k calls why final, (∀ j < k, ¬ it.StopsAt j) → it.Stop k calls why final →
      (iterative h).exec run = (.error why, final) ∧
        ∃ made, Since run final 1 made ∧ made.map Call.ref = (changes.take calls).map Change.ref) ∧
    ((∀ k < changes.length, ¬ it.StopsAt k) →
      (iterative h).exec run =
          (.ok { it.resultAt changes.length with completed := true }, it.stateAt changes.length) ∧
        ∃ made, Since run (it.stateAt changes.length) 1 made ∧
          made.map Call.ref = changes.map Change.ref) := by
  intro it
  constructor
  · intro k calls why final hpass hstop
    obtain ⟨hexec, hsince⟩ := exec_iterative_stop hchanges hpass hstop
    refine ⟨hexec, _, hsince, ?_⟩
    rw [List.map_map]
    exact Iteration.refs_turns_stop hpass hstop
  · intro hpass
    obtain ⟨hexec, hsince⟩ := exec_iterative_end hchanges hpass
    refine ⟨hexec, _, hsince, ?_⟩
    have hrefs : (it.turns changes.length).map (·.call.ref) =
        (changes.take changes.length).map Change.ref := Iteration.refs_turns (Nat.le_refl _) hpass
    rw [List.take_length] at hrefs
    rw [List.map_map]
    exact hrefs

/-- The second change named `a` ends the run, after consent to go on behind each of the others. -/
theorem iterative_stops_at_second_a :
    let h := scriptedHelper [bareChange "a", bareChange "b", bareChange "a"] fun _ =>
      .finish (.ok .promptToContinue)
    ∃ final made, (iterative h).exec { answers := [true, true] } = (.error (.overlap ["a"]), final) ∧
      Since { answers := [true, true] } final 1 made ∧ made.map Call.ref = ["a", "b"] := by
  intro h
  have hall := iterative_calls_until_stop h { answers := [true, true] }
    [bareChange "a", bareChange "b", bareChange "a"] rfl
  obtain ⟨hexec, made, hsince, hmade⟩ := hall.1 2 2 _ _ (by decide) (.repeated rfl (by decide))
  exact ⟨_, made, hexec, hsince, hmade⟩

/-! ## Accounts -/

/-- Turns that leave no change unaccounted for: each was written or empty, and no reference stands twice. -/
structure Settled (turns : List Turn) : Prop where
  distinct : (turns.map (·.call.ref)).Nodup
  decided : ∀ t ∈ turns, t.isEmpty = !t.isWritten

namespace Settled

variable {turns : List Turn}

theorem eq_of_ref_eq (hs : Settled turns) {t u : Turn} (ht : t ∈ turns) (hu : u ∈ turns)
    (href : t.call.ref = u.call.ref) : t = u :=
  List.inj_on_of_nodup_map hs.distinct ht hu href

theorem mem_writtenRefs (hs : Settled turns) {t : Turn} (ht : t ∈ turns) :
    t.call.ref ∈ writtenRefs turns ↔ t.isWritten = true := by
  constructor
  · intro hmem
    obtain ⟨u, hu, href⟩ := List.mem_map.1 hmem
    obtain ⟨hu, hwritten⟩ := List.mem_filter.1 hu
    rwa [← hs.eq_of_ref_eq hu ht href]
  · intro hwritten
    exact List.mem_map_of_mem (List.mem_filter.2 ⟨ht, hwritten⟩)

theorem emptyRefs_eq (hs : Settled turns) :
    emptyRefs turns = (turns.map (·.call.ref)).filter (· ∉ writtenRefs turns) := by
  rw [emptyRefs, List.filter_map]
  congr 1
  refine List.filter_congr fun t ht => ?_
  have hmem := hs.mem_writtenRefs ht
  rw [hs.decided t ht]
  cases hwritten : t.isWritten <;> simp [hmem, hwritten]

theorem nodup_writtenRefs (hs : Settled turns) : (writtenRefs turns).Nodup :=
  hs.distinct.sublist (List.filter_sublist.map _)

theorem nodup_emptyRefs (hs : Settled turns) : (emptyRefs turns).Nodup :=
  hs.distinct.sublist (List.filter_sublist.map _)

theorem disjoint (hs : Settled turns) : (writtenRefs turns).Disjoint (emptyRefs turns) := by
  intro ref hwritten hempty
  rw [hs.emptyRefs_eq] at hempty
  simpa [hwritten] using (List.mem_filter.1 hempty).2

theorem mem_or_mem (hs : Settled turns) {ref : String} (href : ref ∈ turns.map (·.call.ref)) :
    ref ∈ writtenRefs turns ∨ ref ∈ emptyRefs turns := by
  by_cases hwritten : ref ∈ writtenRefs turns
  · exact Or.inl hwritten
  · rw [hs.emptyRefs_eq]
    exact Or.inr (List.mem_filter.2 ⟨href, by simpa using hwritten⟩)

theorem length_add_length (hs : Settled turns) :
    (writtenRefs turns).length + (emptyRefs turns).length = turns.length := by
  have hempty : turns.filter Turn.isEmpty = turns.filter (fun t => !t.isWritten) :=
    List.filter_congr hs.decided
  rw [writtenRefs, emptyRefs, hempty, List.length_map, List.length_map,
    ← List.length_eq_length_filter_add]

end Settled

theorem Turn.isEmpty_of_outcome_ok {t : Turn} {answer : Written} (hok : t.outcome = .ok answer) :
    t.isEmpty = !t.isWritten := by
  simp [Turn.isEmpty, Turn.isWritten, hok]

/-- The turns in front of a position that no earlier one stopped are settled. -/
theorem Iteration.settled_turns {it : Iteration} {n : Nat} (hn : n ≤ it.changes.length)
    (hpass : ∀ j < n, ¬ it.StopsAt j) : Settled (it.turns n) := by
  refine ⟨?_, ?_⟩
  · rw [refs_turns hn hpass]
    exact nodup_take hn hpass
  · intro t ht
    obtain ⟨k, hk, hturn⟩ := List.mem_filterMap.1 ht
    have hk := List.mem_range.1 hk
    obtain ⟨t', ht', hgo⟩ := turn_of_pass (by omega) (hpass k hk)
    obtain rfl : t = t' := Option.some.inj (hturn.symm.trans ht')
    rcases hgo with hok | ⟨hprompt, -⟩ | ⟨why, hfail, hkind⟩
    · exact Turn.isEmpty_of_outcome_ok hok
    · exact Turn.isEmpty_of_outcome_ok hprompt
    · simp [Turn.isEmpty, Turn.isWritten, hfail, hkind]

/-- So are those up to a change that was written. -/
theorem Iteration.settled_turns_written {it : Iteration} {k : Nat} {t : Turn} {answer : Written}
    (hpass : ∀ j < k, ¬ it.StopsAt j) (ht : it.turnAt k = some t) (hok : t.outcome = .ok answer) :
    Settled (it.turns (k + 1)) := by
  obtain ⟨c, fresh, hc, -⟩ := turnAt_eq_some ht
  have hk := lt_of_turnAt ht
  have hbefore := settled_turns (Nat.le_of_lt hk) hpass
  rw [turns_succ ht]
  refine ⟨?_, ?_⟩
  · rw [List.map_append, List.map_singleton, ref_of_turnAt ht hc]
    refine hbefore.distinct.append (by simp) ?_
    rw [refs_turns (Nat.le_of_lt hk) hpass]
    simpa using fresh
  · intro u hu
    rcases List.mem_append.1 hu with hu | hu
    · exact hbefore.decided u hu
    · rw [List.mem_singleton.1 hu]
      exact Turn.isEmpty_of_outcome_ok hok

/-- The changes behind the first one with a reference. -/
def changesAfter (ref : String) (changes : List Change) : List Change :=
  (changes.dropWhile fun c => c.ref != ref).drop 1

theorem changesAfter_of_fresh {changes : List Change} {k : Nat} {c : Change}
    (hc : changes[k]? = some c) (fresh : c.ref ∉ (changes.take k).map Change.ref) :
    changesAfter c.ref changes = changes.drop (k + 1) := by
  obtain ⟨hk, hget⟩ := List.getElem?_eq_some_iff.1 hc
  have hbefore : ∀ d ∈ changes.take k, (d.ref != c.ref) = true := by
    intro d hd
    simp only [bne_iff_ne, ne_eq]
    intro href
    exact fresh (href ▸ List.mem_map_of_mem hd)
  have hdrop : changes.dropWhile (fun d => d.ref != c.ref) = changes.drop k := by
    conv_lhs => rw [← List.take_append_drop k changes]
    rw [List.dropWhile_append_of_pos hbefore, List.drop_eq_getElem_cons hk, hget]
    simp
  rw [changesAfter, hdrop, List.drop_drop]

/-- A result that accounts for changes by the turns that they took: each reference stands once, among
those written or among those that were empty, in the order of the changes. -/
structure Accounted (changes : List Change) (turns : List Turn) (result : Result) : Prop where
  covered : turns.map (·.call.ref) = changes.map Change.ref
  migrated_eq : result.migrated = writtenRefs turns
  skippedEmpty_eq : result.skippedEmpty = emptyRefs turns
  disjoint : result.migrated.Disjoint result.skippedEmpty
  nodup_migrated : result.migrated.Nodup
  nodup_skippedEmpty : result.skippedEmpty.Nodup
  complete : ∀ c ∈ changes, c.ref ∈ result.migrated ∨ c.ref ∈ result.skippedEmpty
  lengths : result.migrated.length + result.skippedEmpty.length = changes.length
  baseline_eq : result.baseline = none

theorem Settled.accounted {changes : List Change} {turns : List Turn} {result : Result}
    (hs : Settled turns) (hcovered : turns.map (·.call.ref) = changes.map Change.ref)
    (hmigrated : result.migrated = writtenRefs turns)
    (hskipped : result.skippedEmpty = emptyRefs turns) (hbaseline : result.baseline = none) :
    Accounted changes turns result where
  covered := hcovered
  migrated_eq := hmigrated
  skippedEmpty_eq := hskipped
  disjoint := hmigrated ▸ hskipped ▸ hs.disjoint
  nodup_migrated := hmigrated ▸ hs.nodup_writtenRefs
  nodup_skippedEmpty := hskipped ▸ hs.nodup_emptyRefs
  complete := by
    intro c hc
    rw [hmigrated, hskipped]
    exact hs.mem_or_mem (hcovered ▸ List.mem_map_of_mem hc)
  lengths := by
    have hlen := congrArg List.length hcovered
    rw [List.length_map, List.length_map] at hlen
    rw [hmigrated, hskipped, hs.length_add_length, hlen]
  baseline_eq := hbaseline

/-- A rejection after the change at a position: it lists the references written by then, that of the
change itself last, the operator reads its message at the very end, and just the changes behind that one
are left to a later run. -/
structure RejectedAfter (changes : List Change) (k : Nat) (c : Change) (turns : List Turn)
    (message : String) (migrated : List String) (final : Run) : Prop where
  covered : turns.map (·.call.ref) = (changes.take (k + 1)).map Change.ref
  migrated_eq : migrated = writtenRefs turns
  last : migrated.getLast? = some c.ref
  missing : ((changes.take (k + 1)).map Change.ref).filter (· ∉ migrated) = emptyRefs turns
  message_eq : message = "Iterative workflow aborted by user after: " ++
    positionLabel (k + 1) changes.length c.ref
  said : final.log.getLast? = some (.said .warn message)
  left : changesAfter c.ref changes = changes.drop (k + 1)

/-- **An iterative run accounts for every change.** A result lists the references of the calls that
returned and of those that were empty; a rejection lists those that returned up to the change after which
the operator declined, so that a later run can go on behind it. -/
theorem iterative_accounts (h : Helper) (run : Run) (changes : List Change)
    (hchanges : h.changesSinceLastImport (run.log ++ [.history]) = .ok changes) :
    let it := Iteration.of h run changes
    (∀ result final, (iterative h).exec run = (.ok result, final) →
      Since run final 1 ((it.turns changes.length).map Turn.call) ∧
        Accounted changes (it.turns changes.length) result) ∧
    (∀ k c t, (∀ j < k, ¬ it.StopsAt j) → changes[k]? = some c → it.turnAt k = some t →
      t.outcome = .ok .promptToContinue → k + 1 < changes.length → t.after.nextAnswer = false →
      ∃ message migrated final,
        (iterative h).exec run = (.error (.rejected message migrated (some c.ref)), final) ∧
        Since run final 1 ((it.turns (k + 1)).map Turn.call) ∧
        RejectedAfter changes k c (it.turns (k + 1)) message migrated final) := by
  intro it
  constructor
  · intro result final hexec
    rcases exists_first_stop it with ⟨k, calls, why, stopped, hpass, hstop⟩ | hpass
    · obtain ⟨hstopped, -⟩ := exec_iterative_stop hchanges hpass hstop
      rw [hexec] at hstopped
      cases hstopped
    · obtain ⟨hend, hsince⟩ := exec_iterative_end hchanges hpass
      rw [hexec] at hend
      cases hend
      have hsettled := Iteration.settled_turns (Nat.le_refl it.changes.length) hpass
      have hcovered := Iteration.refs_turns (Nat.le_refl it.changes.length) hpass
      rw [List.take_length] at hcovered
      exact ⟨hsince, hsettled.accounted hcovered rfl rfl rfl⟩
  · intro k c t hpass hc ht hprompt hleft hno
    have hstop := Iteration.Stop.declined ht hprompt hleft hno
    obtain ⟨hexec, hsince⟩ := exec_iterative_stop hchanges hpass hstop
    obtain ⟨d, fresh, hd, -⟩ := Iteration.turnAt_eq_some ht
    obtain rfl : c = d := Option.some.inj (hc.symm.trans hd)
    have href := Iteration.ref_of_turnAt ht hc
    have hsettled := Iteration.settled_turns_written hpass ht hprompt
    have hcovered := Iteration.refs_turns_stop hpass hstop
    rw [href] at hexec hsince
    refine ⟨_, _, _, hexec, hsince, hcovered, rfl, ?_, ?_, rfl, ?_, changesAfter_of_fresh hc fresh⟩
    · rw [Iteration.turns_succ ht]
      simp [writtenRefs, Turn.isWritten, hprompt, href]
    · rw [hsettled.emptyRefs_eq, hcovered]
      rfl
    · rw [record_log, List.getLast?_concat]

/-- A no after the second of three changes, the first of which is empty. -/
theorem iterative_rejected_after_b :
    let changes := [bareChange "a", bareChange "b", bareChange "c"]
    let h := scriptedHelper changes fun ref =>
      .finish (if ref == "a" then .error (.raised .emptyChange "") else .ok .promptToContinue)
    ∃ final, (iterative h).exec {} = (.error (.rejected
        "Iterative workflow aborted by user after: Change 2 of 3 (b): " ["b"] (some "b")), final) ∧
      changesAfter "b" changes = [bareChange "c"] := by
  intro changes h
  obtain ⟨message, migrated, final, hexec, -, hrejected⟩ :=
    (iterative_accounts h {} changes rfl).2 1 (bareChange "b") _ (by decide) rfl rfl rfl (by decide) rfl
  have hwords : message = "Iterative workflow aborted by user after: Change 2 of 3 (b): " := by
    rw [hrejected.message_eq]
    decide +kernel
  rw [hrejected.migrated_eq, hwords] at hexec
  exact ⟨final, hexec, hrejected.left⟩

/-! ## What a call is given -/

/-- The events of a run determine the calls since its start. -/
theorem Since.calls_eq {r r' : Run} {requests : Nat} {made : List Call} {events : List Event}
    (hsince : Since r r' requests made) (hlog : r'.log = r.log ++ events) :
    Helper.calls events = made := by
  obtain ⟨es, hlog', -, hcalls⟩ := hsince
  rw [hlog, List.append_cancel_left_eq] at hlog'
  rw [hlog', hcalls]

/-- A call of an iterative run is the one for the change at its position, and the changes before that
have distinct references. -/
theorem call_of_iterative {h : Helper} {run : Run} {changes : List Change} {events : List Event}
    {k : Nat} {call : Call}
    (hchanges : h.changesSinceLastImport (run.log ++ [.history]) = .ok changes)
    (hlog : ((iterative h).exec run).2.log = run.log ++ events)
    (hcall : (Helper.calls events)[k]? = some call) :
    ∃ (c : Change) (fresh : c.ref ∉ (changes.take k).map Change.ref), changes[k]? = some c ∧
      ((changes.take k).map Change.ref).Nodup ∧
      call = callFor changes.length (changes.take k) c fresh := by
  let it := Iteration.of h run changes
  obtain ⟨n, hn, hpass, hmade⟩ : ∃ n, n ≤ changes.length + 1 ∧
      (∀ j, j + 1 < n → ¬ it.StopsAt j) ∧ Helper.calls events = (it.turns n).map Turn.call := by
    rcases exists_first_stop it with ⟨n, calls, why, final, hpass, hstop⟩ | hpass
    · obtain ⟨hexec, hsince⟩ := exec_iterative_stop hchanges hpass hstop
      have hn : n < changes.length := hstop.lt
      rw [hexec] at hlog
      exact ⟨n + 1, by omega, fun j hj => hpass j (by omega), hsince.calls_eq hlog⟩
    · obtain ⟨hexec, hsince⟩ := exec_iterative_end hchanges hpass
      rw [hexec] at hlog
      exact ⟨changes.length, by omega, fun j hj => hpass j (Nat.lt_of_succ_lt hj),
        hsince.calls_eq hlog⟩
  rw [hmade, List.getElem?_map, Option.map_eq_some_iff] at hcall
  obtain ⟨t, ht, rfl⟩ := hcall
  obtain ⟨hk, hturn⟩ := Iteration.turnAt_of_getElem?_turns hn hpass ht
  obtain ⟨c, fresh, hc, hcall, -⟩ := Iteration.turnAt_eq_some hturn
  have hnodup := Iteration.nodup_take (Nat.le_of_lt (Iteration.lt_of_turnAt hturn)) fun j hj => hpass j (by omega)
  exact ⟨c, fresh, hc, hnodup, hcall⟩

/-- What the call for the change at a position is given: the data of that change, no baseline, and a view
in which it alone is current and all changes before it are migrated, the latest first. No reference stands
twice in that view. -/
structure GivenAt (changes : List Change) (k : Nat) (call : Call) (c : Change) (view : Computed) :
    Prop where
  change : changes[k]? = some c
  ref_eq : call.ref = c.ref
  baseline_eq : call.baseline = none
  metadata_eq : call.metadata = ⟨c.message, c.author⟩
  view_eq : call.view = .computed view
  current_eq : view.current = [c]
  migrated_eq : view.migrated = (changes.take k).reverse
  distinct : ((view.current ++ view.migrated).map Change.ref).Nodup

theorem givenAt_callFor {changes : List Change} {k : Nat} {c : Change} (total : Nat)
    (hc : changes[k]? = some c) (hnodup : ((changes.take k).map Change.ref).Nodup)
    (fresh : c.ref ∉ (changes.take k).map Change.ref) :
    GivenAt changes k (callFor total (changes.take k) c fresh) c
      (viewFor (changes.take k) c fresh) := by
  refine ⟨hc, rfl, rfl, rfl, rfl, rfl, rfl, ?_⟩
  rw [viewFor, List.map_append, List.map_reverse, List.map_singleton, List.singleton_append,
    List.nodup_cons, List.mem_reverse, List.nodup_reverse]
  exact ⟨fresh, hnodup⟩

/-- **Every call of an iterative run is given its change alone as current and all changes before it as
migrated**, and a read of its view answers the same in every later state. -/
theorem iterative_call_given (h : Helper) (run : Run) (events : List Event) (k : Nat) (call : Call)
    (hlog : ((iterative h).exec run).2.log = run.log ++ events)
    (hcall : (Helper.calls events)[k]? = some call) :
    ∃ changes c view, h.changesSinceLastImport (run.log ++ [.history]) = .ok changes ∧
      GivenAt changes k call c view ∧
      (∀ (side : Side) (later : Run), (h.observe call.view side).exec later =
        (.ok (.ok (view.shown side)), later.record [.read side (.ok (view.shown side))])) ∧
      ∀ (side : Side) (later : Run) (i : Nat), (Helper.calls later.log)[i]? = some call →
        (h.reread i side).exec later =
          (.ok (), later.record [.read side (.ok (view.shown side))]) := by
  cases hhistory : h.changesSinceLastImport (run.log ++ [.history]) with
  | error why =>
    -- without a history there is no call at all
    rw [exec_iterative_error hhistory, record_log, List.append_cancel_left_eq] at hlog
    subst hlog
    simp [Helper.calls] at hcall
  | ok changes =>
    obtain ⟨c, fresh, hc, hnodup, hmade⟩ := call_of_iterative hhistory hlog hcall
    subst hmade
    refine ⟨changes, c, viewFor (changes.take k) c fresh, rfl,
      givenAt_callFor changes.length hc hnodup fresh, ?_, ?_⟩
    · intro side later
      exact exec_observe_computed ..
    · intro side later i hi
      rw [Helper.reread, exec_bind_ok (exec_get later), hi]
      exact exec_bind_ok (exec_observe_computed ..) _

/-- The second call of a run, after a change that was empty. -/
theorem iterative_second_call_given :
    let h := scriptedHelper [bareChange "a", bareChange "b"] fun ref =>
      .finish (if ref == "a" then .error (.raised .emptyChange "") else .ok .ok)
    ∃ call view, (Helper.calls ((iterative h).exec {}).2.log)[1]? = some call ∧
      call.view = .computed view ∧ view.current = [bareChange "b"] ∧
      view.migrated = [bareChange "a"] := by
  intro h
  obtain ⟨changes, c, view, hchanges, hgiven, -, -⟩ := iterative_call_given h {} _ 1 _ rfl rfl
  cases hchanges
  cases hgiven.change
  exact ⟨_, view, rfl, hgiven.view_eq, hgiven.current_eq, hgiven.migrated_eq⟩

end Transplant.Workflow
