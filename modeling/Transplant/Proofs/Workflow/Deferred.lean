import Mathlib.Data.List.Induction
import Transplant.Proofs.Workflow.Exec

/-!
# A deferred view settles once

The first read of the current changes that finds a list, or learns that the history cannot be resolved,
settles a deferred view. Up to then every such read asks for the history, and fails as the history does; from
then on reads answer alike and do nothing.

`exec_deferredChanges_settles`, `exec_deferredChanges_escapes` and `exec_deferredChanges_settled` say what one
read does. Main statement: what reads in any order find, one after another (`deferred_settles_once`).
-/

namespace Transplant.Workflow

/-! ## One read -/

/-- The outcomes of a request for the history that settle a deferred view, with the changes that it then
shows and its warning. -/
inductive Settles : Except Failure (List Change) → List Change → Option String → Prop
  | found (changes : List Change) : Settles (.ok changes) changes none
  | unresolved {why : Failure} (hkind : why.kind.isA .repository = true) :
      Settles (.error why) [] (some (Helper.unresolvedWarning why))

/-- The outcomes of a request for the history that leave a deferred view as it was, with the failure. -/
inductive Escapes : Except Failure (List Change) → Failure → Prop
  | failed {why : Failure} (hkind : why.kind.isA .repository = false) : Escapes (.error why) why

theorem settles_or_escapes (outcome : Except Failure (List Change)) :
    (∃ changes warning, Settles outcome changes warning) ∨ ∃ why, Escapes outcome why := by
  cases outcome with
  | ok changes => exact Or.inl ⟨_, _, .found changes⟩
  | error why =>
    cases hkind : why.kind.isA .repository with
    | true => exact Or.inl ⟨_, _, .unresolved hkind⟩
    | false => exact Or.inr ⟨_, .failed hkind⟩

theorem Settles.not_escapes {outcome : Except Failure (List Change)} {changes : List Change}
    {warning : Option String} (hsettles : Settles outcome changes warning) (why : Failure) :
    ¬ Escapes outcome why := by
  intro hescapes
  cases hescapes with
  | failed hother =>
    cases hsettles with
    | unresolved hkind =>
      rw [hkind] at hother
      cases hother

theorem Settles.unique {outcome : Except Failure (List Change)} {changes changes' : List Change}
    {warning warning' : Option String} (h : Settles outcome changes warning)
    (h' : Settles outcome changes' warning') : changes = changes' ∧ warning = warning' := by
  cases h <;> cases h' <;> exact ⟨rfl, rfl⟩

/-- What is told of a warning: a record of the log and a message on the console. -/
def tidings : Option String → List Event
  | none => []
  | some text => [.logged ⟨.warning, some "LazyChanges", text⟩, .said .warn text]

/-- The state in which the deferred view has settled. -/
def Run.settle (r : Run) (changes : List Change) (warning : Option String) : Run :=
  { r with cell := .settled changes warning }

@[simp] theorem settle_cell (r : Run) (changes : List Change) (warning : Option String) :
    (r.settle changes warning).cell = .settled changes warning := rfl

@[simp] theorem settle_log (r : Run) (changes : List Change) (warning : Option String) :
    (r.settle changes warning).log = r.log := rfl

@[simp] theorem settle_answers (r : Run) (changes : List Change) (warning : Option String) :
    (r.settle changes warning).answers = r.answers := rfl

variable {h : Helper} {r : Run} {changes : List Change} {warning : Option String}

theorem exec_deferredChanges_settled (hcell : r.cell = .settled changes warning) :
    h.deferredChanges.exec r = (.ok changes, r) := by
  rw [Helper.deferredChanges, exec_bind_ok (exec_get r), hcell, exec_pure]

theorem exec_deferredChanges_settles (hcell : r.cell = .unsettled)
    (hsettles : Settles (h.changesSinceLastImport (r.log ++ [.history])) changes warning) :
    h.deferredChanges.exec r =
      (.ok changes, (r.record (.history :: tidings warning)).settle changes warning) := by
  have himport := exec_importedChanges h r
  generalize h.changesSinceLastImport (r.log ++ [.history]) = outcome at himport hsettles
  rw [Helper.deferredChanges, exec_bind_ok (exec_get r), hcell]
  dsimp only
  rw [exec_bind, exec_tryCatch, exec_bind, himport]
  cases hsettles with
  | found => rfl
  | unresolved hkind =>
    dsimp only
    rw [if_pos hkind, exec_bind_ok (exec_log ..), exec_bind_ok (exec_say ..), record_record,
      record_record]
    rfl

theorem exec_deferredChanges_escapes {why : Failure} (hcell : r.cell = .unsettled)
    (hescapes : Escapes (h.changesSinceLastImport (r.log ++ [.history])) why) :
    h.deferredChanges.exec r = (.error why, r.record [.history]) := by
  have himport := exec_importedChanges h r
  generalize h.changesSinceLastImport (r.log ++ [.history]) = outcome at himport hescapes
  rw [Helper.deferredChanges, exec_bind_ok (exec_get r), hcell]
  dsimp only
  rw [exec_bind, exec_tryCatch, exec_bind, himport]
  cases hescapes with
  | failed hkind =>
    dsimp only
    rw [if_neg (by simp [hkind]), exec_bind_error (exec_throw ..)]

/-! ## Reads in any order -/

/-- What can be read of a deferred view. -/
inductive Probe where
  | side (side : Side)
  | warning
deriving DecidableEq

/-- What a read of a deferred view answers. -/
inductive Reading where
  | changes (changes : List Change)
  | warning (text : Option String)

/-- Reads a deferred view. -/
def probe (h : Helper) : Probe → Act Reading
  | .side side => Reading.changes <$> h.readView .deferred side
  | .warning => (fun r => Reading.warning r.cell.warning) <$> get

/-- The state after some reads, failed ones included. -/
def afterReads (h : Helper) (run : Run) (reads : List Probe) : Run :=
  reads.foldl (fun r p => ((probe h p).exec r).2) run

theorem afterReads_concat (h : Helper) (run : Run) (reads : List Probe) (p : Probe) :
    afterReads h run (reads ++ [p]) = ((probe h p).exec (afterReads h run reads)).2 := by
  simp [afterReads]

@[simp] theorem exec_probe_migrated (h : Helper) (r : Run) :
    (probe h (.side .migrated)).exec r = (.ok (.changes []), r) := rfl

@[simp] theorem exec_probe_warning (h : Helper) (r : Run) :
    (probe h .warning).exec r = (.ok (.warning r.cell.warning), r) := rfl

theorem exec_probe_settled (hcell : r.cell = .settled changes warning) :
    (probe h (.side .current)).exec r = (.ok (.changes changes), r) := by
  change (Reading.changes <$> h.deferredChanges).exec r = _
  rw [exec_map, exec_deferredChanges_settled hcell]
  rfl

theorem exec_probe_settles (hcell : r.cell = .unsettled)
    (hsettles : Settles (h.changesSinceLastImport (r.log ++ [.history])) changes warning) :
    (probe h (.side .current)).exec r =
      (.ok (.changes changes), (r.record (.history :: tidings warning)).settle changes warning) := by
  change (Reading.changes <$> h.deferredChanges).exec r = _
  rw [exec_map, exec_deferredChanges_settles hcell hsettles]
  rfl

theorem exec_probe_escapes {why : Failure} (hcell : r.cell = .unsettled)
    (hescapes : Escapes (h.changesSinceLastImport (r.log ++ [.history])) why) :
    (probe h (.side .current)).exec r = (.error why, r.record [.history]) := by
  change (Reading.changes <$> h.deferredChanges).exec r = _
  rw [exec_map, exec_deferredChanges_escapes hcell hescapes]
  rfl

/-- All of the first outcomes escaped. -/
def Escaped (outcomes : Nat → Except Failure (List Change)) (n : Nat) : Prop :=
  ∀ j < n, ∃ why, Escapes (outcomes j) why

theorem Escaped.succ {outcomes : Nat → Except Failure (List Change)} {n : Nat} {why : Failure}
    (h : Escaped outcomes n) (hescapes : Escapes (outcomes n) why) : Escaped outcomes (n + 1) := by
  intro j hj
  rcases Nat.lt_succ_iff_lt_or_eq.1 hj with hj | rfl
  · exact h j hj
  · exact ⟨why, hescapes⟩

/-- The states in which a deferred view can be once its current changes were read a number of times: it
still asks, or one of the requests settled it and was the last. -/
inductive Standing (run : Run) (outcomes : Nat → Except Failure (List Change)) (n : Nat) : Run → Prop
  | asking (hescaped : Escaped outcomes n) :
      Standing run outcomes n (run.record (List.replicate n .history))
  | settled {k : Nat} {changes : List Change} {warning : Option String} (hk : k < n)
      (hescaped : Escaped outcomes k) (hsettles : Settles (outcomes k) changes warning) :
      Standing run outcomes n
        ((run.record (List.replicate (k + 1) .history ++ tidings warning)).settle changes warning)

section

variable {run : Run} {outcomes : Nat → Except Failure (List Change)} {n : Nat}

/-- The next request, after some that left the view unsettled, has the next outcome. -/
theorem nextOutcome_eq
    (houtcomes : ∀ n, h.changesSinceLastImport (run.log ++ List.replicate (n + 1) .history) = outcomes n)
    (n : Nat) :
    h.changesSinceLastImport ((run.record (List.replicate n .history)).log ++ [.history]) =
      outcomes n := by
  rw [← houtcomes n, record_log, List.append_assoc, ← List.replicate_succ']

theorem Standing.next (hfresh : run.cell = .unsettled)
    (houtcomes : ∀ n, h.changesSinceLastImport (run.log ++ List.replicate (n + 1) .history) = outcomes n)
    (hs : Standing run outcomes n r) :
    Standing run outcomes (n + 1) ((probe h (.side .current)).exec r).2 := by
  cases hs with
  | settled hk hescaped hsettles =>
    rw [exec_probe_settled (settle_cell ..)]
    exact .settled (Nat.lt_succ_of_lt hk) hescaped hsettles
  | asking hescaped =>
    have hcell : (run.record (List.replicate n .history)).cell = .unsettled := hfresh
    rcases settles_or_escapes (outcomes n) with ⟨changes, warning, hsettles⟩ | ⟨why, hescapes⟩
    · have hstanding : Standing run outcomes (n + 1) _ := .settled (Nat.lt_succ_self n) hescaped hsettles
      rw [← nextOutcome_eq houtcomes n] at hsettles
      rw [exec_probe_settles hcell hsettles, record_record, List.append_cons, ← List.replicate_succ']
      exact hstanding
    · have hstanding : Standing run outcomes (n + 1) _ := .asking (hescaped.succ hescapes)
      rw [← nextOutcome_eq houtcomes n] at hescapes
      rw [exec_probe_escapes hcell hescapes, record_record, ← List.replicate_succ']
      exact hstanding

theorem standing_afterReads (hfresh : run.cell = .unsettled)
    (houtcomes : ∀ n, h.changesSinceLastImport (run.log ++ List.replicate (n + 1) .history) = outcomes n)
    (reads : List Probe) :
    Standing run outcomes (reads.count (.side .current)) (afterReads h run reads) := by
  induction reads using List.reverseRecOn with
  | nil =>
    have hstart : Standing run outcomes 0 _ := .asking (by simp [Escaped])
    rwa [List.replicate_zero, record_nil] at hstart
  | append_singleton reads p ih =>
    rw [afterReads_concat, List.count_append]
    -- only a read of the current changes can do anything
    match p with
    | .side .current => exact ih.next hfresh houtcomes
    | .side .migrated => exact ih
    | .warning => exact ih

/-- As long as every request failed otherwise, the view has asked each time and has nothing to show. -/
theorem Standing.eq_of_escaped (hs : Standing run outcomes n r) (hescaped : Escaped outcomes n) :
    r = run.record (List.replicate n .history) := by
  cases hs with
  | asking => rfl
  | settled hk _ hsettles =>
    obtain ⟨why, hescapes⟩ := hescaped _ hk
    exact absurd hescapes (hsettles.not_escapes why)

/-- The first request that settled the view was its last. -/
theorem Standing.eq_of_settles {k : Nat} (hs : Standing run outcomes n r) (hk : k < n)
    (hescaped : Escaped outcomes k) (hsettles : Settles (outcomes k) changes warning) :
    r = (run.record (List.replicate (k + 1) .history ++ tidings warning)).settle changes warning := by
  cases hs with
  | asking hall =>
    obtain ⟨why, hescapes⟩ := hall k hk
    exact absurd hescapes (hsettles.not_escapes why)
  | @settled k' _ _ _ hescaped' hsettles' =>
    rcases Nat.lt_trichotomy k k' with hlt | rfl | hlt
    · obtain ⟨why, hescapes⟩ := hescaped' k hlt
      exact absurd hescapes (hsettles.not_escapes why)
    · obtain ⟨rfl, rfl⟩ := hsettles.unique hsettles'
      rfl
    · obtain ⟨why, hescapes⟩ := hescaped k' hlt
      exact absurd hescapes (hsettles'.not_escapes why)

end

/-- A helper whose requests for the history come to the given outcomes, one after another. -/
def answering (outcomes : Nat → Except Failure (List Change)) : Helper :=
  { scriptedHelper [] fun _ => .finish (.ok .ok) with
    changesSinceLastImport := fun events => outcomes (historyRequests events - 1) }

theorem answering_changesSinceLastImport (outcomes : Nat → Except Failure (List Change)) (n : Nat) :
    (answering outcomes).changesSinceLastImport (List.replicate (n + 1) .history) = outcomes n := by
  simp [answering, historyRequests, List.countP_replicate]

/-- **A deferred view settles once.** After any reads, whatever the requests for the history came to: the
migrated changes are none. As long as every request failed otherwise than by a history that cannot be
resolved, there is no warning, and the next read of the current changes asks again, once, and fails or
settles the view. The first request that settled it was the last; the view shows what that request found,
reads do nothing, and its warning, if there is one, was told at that moment and at no other. -/
theorem deferred_settles_once (h : Helper) (run : Run) (outcomes : Nat → Except Failure (List Change))
    (hfresh : run.cell = .unsettled)
    (houtcomes : ∀ n, h.changesSinceLastImport (run.log ++ List.replicate (n + 1) .history) = outcomes n)
    (reads : List Probe) :
    let n := reads.count (.side .current)
    let r := afterReads h run reads
    (probe h (.side .migrated)).exec r = (.ok (.changes []), r) ∧
    (Escaped outcomes n →
      r = run.record (List.replicate n .history) ∧
      (probe h .warning).exec r = (.ok (.warning none), r) ∧
      (∀ why, Escapes (outcomes n) why →
        (probe h (.side .current)).exec r = (.error why, r.record [.history])) ∧
      ∀ changes warning, Settles (outcomes n) changes warning →
        (probe h (.side .current)).exec r =
          (.ok (.changes changes), (r.record (.history :: tidings warning)).settle changes warning)) ∧
    ∀ k < n, Escaped outcomes k → ∀ changes warning, Settles (outcomes k) changes warning →
      r = (run.record (List.replicate (k + 1) .history ++ tidings warning)).settle changes warning ∧
      (probe h .warning).exec r = (.ok (.warning warning), r) ∧
      (probe h (.side .current)).exec r = (.ok (.changes changes), r) := by
  intro n r
  have hstanding : Standing run outcomes n r := standing_afterReads hfresh houtcomes reads
  refine ⟨rfl, ?_, ?_⟩
  · intro hescaped
    have hr := hstanding.eq_of_escaped hescaped
    have hcell : r.cell = .unsettled := by rw [hr, record_cell, hfresh]
    have hnext : h.changesSinceLastImport (r.log ++ [.history]) = outcomes n := by
      rw [hr, nextOutcome_eq houtcomes]
    refine ⟨hr, ?_, ?_, ?_⟩
    · rw [exec_probe_warning, hcell]
      rfl
    · intro why hescapes
      exact exec_probe_escapes hcell (hnext ▸ hescapes)
    · intro changes warning hsettles
      exact exec_probe_settles hcell (hnext ▸ hsettles)
  · intro k hk hescaped changes warning hsettles
    have hr := hstanding.eq_of_settles hk hescaped hsettles
    have hcell : r.cell = .settled changes warning := by rw [hr, settle_cell]
    refine ⟨hr, ?_, exec_probe_settled hcell⟩
    rw [exec_probe_warning, hcell]
    rfl

/-- The second of three requests settles the view, and the third is never made. -/
theorem deferred_settles_at_second_request :
    let outcomes : Nat → Except Failure (List Change)
      | 0 => .error (.raised .runtime "boom")
      | 1 => .error (.raised .repository "gone")
      | _ => .ok [bareChange "a"]
    let reads : List Probe := [.side .current, .warning, .side .current, .side .migrated, .side .current]
    let r := afterReads (answering outcomes) {} reads
    historyRequests r.log = 2 ∧
      (probe (answering outcomes) .warning).exec r = (.ok (.warning (some (
        "Previous reference could not be resolved. Cannot compute the set of changes in the migration: " ++
          "gone"))), r) ∧
      (probe (answering outcomes) (.side .current)).exec r = (.ok (.changes []), r) := by
  intro outcomes reads r
  have hescaped : Escaped outcomes 1 := by
    intro j hj
    obtain rfl : j = 0 := by omega
    exact ⟨_, .failed rfl⟩
  obtain ⟨hr, hwarning, hcurrent⟩ := (deferred_settles_once (answering outcomes) {} outcomes rfl
    (answering_changesSinceLastImport outcomes) reads).2.2 1 (by decide) hescaped _ _ (.unresolved rfl)
  refine ⟨?_, hwarning, hcurrent⟩
  rw [show r = _ from hr]
  rfl

end Transplant.Workflow
