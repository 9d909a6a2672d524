import Transplant.Change
import Transplant.Failure

/-!
# Views of the changes in a migration

What a migrate call can see of a run: the changes being migrated and those migrated before. A
computed view holds both and keeps them apart; a deferred view looks for the current
changes when it is first read, and the run remembers what it found.
-/

namespace Transplant.Workflow

/-- A view whose changes are known: no reference is both current and migrated. -/
structure Computed where
  current : List Change
  migrated : List Change
  disjoint : ∀ c ∈ migrated, ∀ d ∈ current, c.ref ≠ d.ref

namespace Computed

/-- The references of the migrated changes that are also current. -/
def overlap (current migrated : List Change) : List String :=
  (migrated.filter fun c => current.any fun d => d.ref == c.ref).map (·.ref)

theorem disjoint_of_overlap_eq_nil {current migrated : List Change}
    (h : overlap current migrated = []) : ∀ c ∈ migrated, ∀ d ∈ current, c.ref ≠ d.ref := by
  intro c hc d hd heq
  have hmem : c ∈ migrated.filter fun c => current.any fun d => d.ref == c.ref :=
    List.mem_filter.2 ⟨hc, List.any_eq_true.2 ⟨d, hd, by simp [heq]⟩⟩
  rw [overlap, List.map_eq_nil_iff] at h
  rw [h] at hmem
  exact List.not_mem_nil hmem

/-- The view of the given changes, unless some reference is both current and migrated. -/
def of (current migrated : List Change) : Except Failure Computed :=
  if h : overlap current migrated = [] then
    .ok ⟨current, migrated, disjoint_of_overlap_eq_nil h⟩
  else .error (.overlap (overlap current migrated))

end Computed

/-- A view of the changes in a migration. -/
inductive View where
  | computed (view : Computed)
  | deferred

/-- The two halves of a view. -/
inductive Side where
  | current
  | migrated
deriving DecidableEq, Repr

/-- What is known of the changes that a deferred view stands for. -/
inductive Cell where
  | unsettled
  | settled (changes : List Change) (warning : Option String)

/-- The warning of a deferred view whose changes could not be found. -/
def Cell.warning : Cell → Option String
  | .unsettled => none
  | .settled _ warning => warning

end Transplant.Workflow
