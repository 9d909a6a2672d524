import Transplant.Proofs.Disk.Update

/-!
# Growth of a disk

What a command does to a disk takes nothing away: a path that leads to a place goes on to do so, and a file stays a
file. Only the files that are written to have other contents then.

Main statement: `read_of_grows`, where a file was read before and is read again.
-/

namespace Transplant.Disk

variable {d d' d'' : Disk} {place : Place} {p : Tree.Path} {written written' : Place → Prop}

/-- A disk after another one, with files at some places written to in between. -/
structure Grows (written : Place → Prop) (d d' : Disk) : Prop where
  locate : ∀ p place, d.locate p = .ok place → d'.locate p = .ok place
  file : ∀ place contents, d.entry? place = some (.file contents) →
    ∃ contents', d'.entry? place = some (.file contents') ∧ (¬ written place → contents' = contents)

namespace Grows

theorem refl (written : Place → Prop) (d : Disk) : Grows written d d :=
  ⟨fun _ _ h => h, fun _ contents h => ⟨contents, h, fun _ => rfl⟩⟩

theorem trans (h : Grows written d d') (h' : Grows written d' d'') : Grows written d d'' := by
  refine ⟨fun p place hp => h'.locate p place (h.locate p place hp), fun place contents hentry => ?_⟩
  obtain ⟨between, hbetween, hsame⟩ := h.file place contents hentry
  obtain ⟨contents', hcontents', hsame'⟩ := h'.file place between hbetween
  exact ⟨contents', hcontents', fun hnot => (hsame' hnot).trans (hsame hnot)⟩

theorem mono (h : Grows written d d') (hwritten : ∀ place, written place → written' place) :
    Grows written' d d' := by
  refine ⟨h.locate, fun place contents hentry => ?_⟩
  obtain ⟨contents', hcontents', hsame⟩ := h.file place contents hentry
  exact ⟨contents', hcontents', fun hnot => hsame fun hplace => hnot (hwritten place hplace)⟩

end Grows

/-! ## What makes a disk grow -/

/-- Something is put where there is no directory. -/
theorem grows_put {entry : Entry} (hfree : d.entry? place ≠ some .directory)
    (hentry : ∀ contents, d.entry? place = some (.file contents) → ∃ contents', entry = .file contents') :
    Grows (· = place) d (d.put place entry) := by
  refine ⟨fun p other hother => locate_put hfree hother, fun other contents hother => ?_⟩
  by_cases hsame : other = place
  · subst hsame
    obtain ⟨contents', rfl⟩ := hentry contents hother
    have hroot : other ≠ [] := by
      rintro rfl
      exact hfree rfl
    exact ⟨contents', entry?_put_self hroot, fun hnot => absurd rfl hnot⟩
  · exact ⟨contents, (entry?_put_of_ne hsame).trans hother, fun _ => rfl⟩

theorem grows_update {f : List UInt8 → List UInt8} (h : d.update p f = .ok d') :
    Grows (fun place => d.locate p = .ok place) d d' := by
  obtain ⟨place, old, hplace, hold⟩ := locate_of_update h
  rw [update_of_locate hplace hold] at h
  cases h
  have hput : Grows (· = place) d (d.put place (.file (f old))) :=
    grows_put (free_of_readForWriting hold).1 fun _ _ => ⟨_, rfl⟩
  exact hput.mono fun other hother => hother ▸ hplace

theorem grows_makeDirectory (h : d.makeDirectory p = .ok d') : Grows (fun _ => False) d d' := by
  obtain ⟨place, -, h⟩ := ok_of_bind h
  cases hentry : d.entry? place with
  | some entry =>
    rw [hentry] at h
    cases h
  | none =>
    rw [hentry] at h
    cases h
    have hput : Grows (· = place) d (d.put place .directory) := grows_put (by simp [hentry]) (by simp [hentry])
    refine ⟨hput.locate, fun other contents hother => ?_⟩
    obtain ⟨contents', hcontents', hsame⟩ := hput.file other contents hother
    refine ⟨contents', hcontents', fun _ => hsame ?_⟩
    rintro rfl
    cases hentry.symm.trans hother

variable {cwd : Tree.Path} {l : Location}

theorem grows_ensureDirectory (h : d.ensureDirectory cwd l = .ok d') : Grows (fun _ => False) d d' := by
  unfold ensureDirectory at h
  split at h
  · rename_i made hmade
    cases h
    exact grows_makeDirectory hmade
  · split at h
    · cases h
      exact .refl _ _
    · cases h

theorem grows_ensureAbove (depth : Nat) (h : d.ensureAbove cwd depth l = .ok d') : Grows (fun _ => False) d d' := by
  induction depth generalizing d' l with
  | zero => exact grows_ensureDirectory h
  | succ depth ih =>
    rw [ensureAbove] at h
    split at h
    · obtain ⟨above, habove, h⟩ := ok_of_bind h
      exact (ih habove).trans (grows_ensureDirectory h)
    · exact grows_ensureDirectory h

theorem grows_ensureDirectories (h : d.ensureDirectories cwd l = .ok d') : Grows (fun _ => False) d d' :=
  grows_ensureAbove _ h

/-! ## Reading again -/

theorem read_eq_ok_iff {contents : List UInt8} :
    d.read p = .ok contents ↔ ∃ place, d.locate p = .ok place ∧ d.entry? place = some (.file contents) := by
  cases hplace : d.locate p with
  | error why =>
    rw [read_of_not_located hplace]
    simp
  | ok place =>
    rw [read_of_locate hplace]
    cases hentry : d.entry? place with
    | none => simp [hentry]
    | some entry => cases entry <;> simp [hentry]

/-- **A file can still be read**, and has the contents that it had unless it was written to. -/
theorem read_of_grows {contents : List UInt8} (h : Grows written d d') (hread : d.read p = .ok contents) :
    ∃ contents', d'.read p = .ok contents' ∧
      ((∀ place, d'.locate p = .ok place → ¬ written place) → contents' = contents) := by
  obtain ⟨place, hplace, hentry⟩ := read_eq_ok_iff.1 hread
  obtain ⟨contents', hentry', hsame⟩ := h.file place contents hentry
  have hplace' := h.locate p place hplace
  exact ⟨contents', read_eq_ok_iff.2 ⟨place, hplace', hentry'⟩, fun hnot => hsame (hnot place hplace')⟩

end Transplant.Disk
