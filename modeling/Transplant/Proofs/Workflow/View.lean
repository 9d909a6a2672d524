import Mathlib.Data.List.Perm.Basic
import Transplant.Proofs.Workflow.Exec

/-!
# Computed views

A computed view is made of any two sequences of changes that share no reference. Where they share some, the failure
names each of them as often as it is migrated (`Shared`, which order and counts leave no choice in: `Shared.unique`).

Main statement: `computed_iff_disjoint`.
-/

namespace Transplant.Workflow

/-- The references of migrated changes that are also current: in the order of the migrated changes, each as often as
there, and no others. -/
structure Shared (current migrated : List Change) (refs : List String) : Prop where
  ordered : refs.Sublist (migrated.map Change.ref)
  counted : ∀ ref, refs.count ref =
    if ref ∈ current.map Change.ref then (migrated.map Change.ref).count ref else 0

section

variable {current migrated : List Change} {refs refs' : List String}

theorem shared_filter (current migrated : List Change) :
    Shared current migrated ((migrated.map Change.ref).filter (· ∈ current.map Change.ref)) := by
  refine ⟨List.filter_sublist, fun ref => ?_⟩
  by_cases hcurrent : ref ∈ current.map Change.ref
  · rw [if_pos hcurrent, List.count_filter (by simpa using hcurrent)]
  · rw [if_neg hcurrent, List.count_eq_zero]
    intro hmem
    exact hcurrent (by simpa using (List.mem_filter.1 hmem).2)

theorem Shared.mem_current (h : Shared current migrated refs) {ref : String} (hmem : ref ∈ refs) :
    ref ∈ current.map Change.ref := by
  by_contra hnot
  have hcount := h.counted ref
  rw [if_neg hnot] at hcount
  exact List.count_eq_zero.1 hcount hmem

theorem Shared.eq_filter (h : Shared current migrated refs) :
    refs = (migrated.map Change.ref).filter (· ∈ current.map Change.ref) := by
  have hsub := h.ordered.filter (· ∈ current.map Change.ref)
  rw [List.filter_eq_self.2 fun ref hmem => by simpa using h.mem_current hmem] at hsub
  -- a sublist with the same counts has the same length, so nothing was left out
  have hperm : refs.Perm ((migrated.map Change.ref).filter (· ∈ current.map Change.ref)) :=
    List.perm_iff_count.2 fun ref => (h.counted ref).trans ((shared_filter current migrated).counted ref).symm
  exact hsub.eq_of_length hperm.length_eq

theorem Shared.unique (h : Shared current migrated refs) (h' : Shared current migrated refs') : refs = refs' :=
  h.eq_filter.trans h'.eq_filter.symm

theorem Shared.eq_nil_iff (h : Shared current migrated refs) :
    refs = [] ↔ (current.map Change.ref).Disjoint (migrated.map Change.ref) := by
  rw [h.eq_filter, List.filter_eq_nil_iff, List.disjoint_comm]
  simp [List.Disjoint]

theorem shared_overlap (current migrated : List Change) :
    Shared current migrated (Computed.overlap current migrated) := by
  have hoverlap : Computed.overlap current migrated =
      (migrated.map Change.ref).filter (· ∈ current.map Change.ref) := by
    rw [Computed.overlap, List.filter_map]
    congr 1
    refine List.filter_congr fun c _ => ?_
    rw [Bool.eq_iff_iff, List.any_eq_true]
    simp
  rw [hoverlap]
  exact shared_filter current migrated

end

/-- **A computed view is made exactly of sequences that share no reference**, and then shows them as they are. In all
other cases the failure names the references that they share. -/
theorem computed_iff_disjoint (current migrated : List Change) :
    ((∃ view, Computed.of current migrated = .ok view) ↔
      (current.map Change.ref).Disjoint (migrated.map Change.ref)) ∧
    (∀ view, Computed.of current migrated = .ok view → view.current = current ∧ view.migrated = migrated) ∧
    ∀ why, Computed.of current migrated = .error why →
      ∃ refs, Shared current migrated refs ∧ why = .overlap refs ∧ why.kind = .value ∧
        why.message = "Changes cannot be both current and migrated: " ++ ", ".intercalate refs := by
  have hshared := shared_overlap current migrated
  unfold Computed.of
  split
  · next hnil =>
    refine ⟨?_, ?_, fun why hwhy => ?_⟩
    · simpa using hshared.eq_nil_iff.1 hnil
    · rintro view ⟨⟩
      exact ⟨rfl, rfl⟩
    · cases hwhy
  · next hsome =>
    refine ⟨?_, nofun, ?_⟩
    · simpa using fun hdisjoint => hsome (hshared.eq_nil_iff.2 hdisjoint)
    · rintro why ⟨⟩
      exact ⟨_, hshared, rfl, rfl, rfl⟩

/-- Changes that differ in all but their reference, some of them twice on either side. -/
theorem computed_iff_disjoint_repeated :
    let renamed : Change := { bareChange "a" with message := "again" }
    let current := [bareChange "a", renamed, bareChange "b"]
    let migrated := [renamed, bareChange "c", bareChange "b", bareChange "a"]
    (∃ view, Computed.of current [bareChange "c", bareChange "c"] = .ok view) ∧
    ∃ why, Computed.of current migrated = .error why ∧
      why.message = "Changes cannot be both current and migrated: a, b, a" := by
  intro renamed current migrated
  have hdisjoint : (current.map Change.ref).Disjoint ([bareChange "c", bareChange "c"].map Change.ref) := by
    simp [current, renamed, bareChange]
  refine ⟨(computed_iff_disjoint current _).1.2 hdisjoint, ?_⟩
  obtain ⟨hmade, -, hnamed⟩ := computed_iff_disjoint current migrated
  cases hof : Computed.of current migrated with
  | ok view => exact absurd (hmade.1 ⟨view, hof⟩) (by simp [current, migrated, renamed, bareChange])
  | error why =>
    obtain ⟨refs, hrefs, -, -, hmessage⟩ := hnamed why hof
    refine ⟨why, rfl, ?_⟩
    rw [hmessage, hrefs.unique (shared_filter _ _)]
    decide

end Transplant.Workflow
