import Transplant.Proofs.Disk.Growth
import Transplant.Proofs.Text.Lines

/-!
# Paths as they are given

A command line is checked with the paths word for word, and works with their locations, in which the components
that do not count are left out. Wherever a path leads word for word, its location does too; only the other way
round a location may lead on where a slash at the end asked for a directory.

Main statement: `read_of_examine`, so that a file that was found by the check can be read.
-/

namespace Transplant.Disk

variable {d : Disk} {cwd : Tree.Path} {given : String} {start last : Place}

/-! ## Components -/

theorem foldlM_step_components {names : List (List Char)} (h : names.foldlM d.step start = .ok last) :
    (names.filter fun name => !name.isEmpty && name != ['.']).foldlM d.step start = .ok last := by
  induction names generalizing start with
  | nil => exact h
  | cons name rest ih =>
    rw [List.foldlM_cons] at h
    obtain ⟨next, hstep, h⟩ := ok_of_bind h
    by_cases hblank : name = [] ∨ name = ['.']
    · -- such a component leads nowhere, but only in a directory
      have hnext : next = start := by
        rw [step, isDirectory_of_step hstep] at hstep
        dsimp only at hstep
        rw [if_pos hblank] at hstep
        exact (Except.ok.inj hstep).symm
      rw [List.filter_cons_of_neg (by rcases hblank with rfl | rfl <;> decide)]
      exact ih (hnext ▸ h)
    · rw [List.filter_cons_of_pos (by simpa [not_or] using hblank), List.foldlM_cons, hstep, bind_ok]
      exact ih h

theorem any_hasNull_components {cs : List Char} (h : hasNull cs = false) :
    (Tree.Path.components cs).any hasNull = false := by
  rw [List.any_eq_false]
  intro name hname hnull
  have hmem : '\x00' ∈ cs := (Text.of_mem_piece (List.mem_filter.1 hname).1 (by simpa [hasNull] using hnull)).1
  simp [hasNull, hmem] at h

/-! ## Roots -/

theorem startsWith_slash (given : String) :
    given.startsWith "/" = (Tree.Path.root? given.toList).isSome := by
  rw [Bool.eq_iff_iff, String.startsWith_string_iff]
  cases given.toList with
  | nil => simp [Tree.Path.root?]
  | cons c rest =>
    by_cases hc : c = '/'
    · simp [Tree.Path.root?, hc]
    · simp [Tree.Path.root?, hc, List.cons_prefix_cons, Ne.symm hc]

/-! ## Locations -/

theorem examine_eq (d : Disk) (cwd : Tree.Path) (given : String) :
    d.examine cwd given =
      if hasNull given.toList then .error .nullByte
      else if given.isEmpty then .error .missing
      else (if given.startsWith "/" then .ok [] else d.locate cwd) >>= fun start =>
        (Text.splitOn '/' given.toList).foldlM d.step start >>= d.found := by
  rw [examine]
  cases hasNull given.toList <;> cases given.isEmpty <;> cases given.startsWith "/" <;> rfl

/-- A name is looked for in the working directory. -/
theorem examine_name (hname : hasNull given.toList = false ∧ given.isEmpty = false ∧ given.startsWith "/" = false ∧
    Text.splitOn '/' given.toList = [given.toList]) :
    d.examine cwd given = d.locate cwd >>= fun start => d.step start given.toList >>= d.found := by
  obtain ⟨hnull, hempty, hrelative, hsplit⟩ := hname
  rw [examine_eq, hnull, hempty, hrelative, hsplit]
  simp only [Bool.false_eq_true, if_false, List.foldlM_cons, List.foldlM_nil, bind_assoc, pure_bind]

theorem hasNull_of_examine {entry : Entry} (h : d.examine cwd given = .ok entry) : hasNull given.toList = false := by
  rw [examine_eq] at h
  split at h
  · cases h
  · exact Bool.eq_false_iff.2 ‹_›

/-- **Where a path leads word for word, its location does too.** -/
theorem lookUp_of_examine {entry : Entry} (h : d.examine cwd given = .ok entry) :
    d.lookUp ((Location.ofText given).absolute cwd) = .ok entry := by
  have hnull := hasNull_of_examine h
  rw [examine_eq, if_neg (Bool.eq_false_iff.1 hnull)] at h
  split at h
  · cases h
  obtain ⟨start, hstart, h⟩ := ok_of_bind h
  obtain ⟨place, hwalk, hfound⟩ := ok_of_bind h
  have hlocate : d.locate ((Location.ofText given).absolute cwd) = .ok place := by
    have hnames := any_hasNull_components hnull
    have hbelow := foldlM_step_components hwalk
    rw [startsWith_slash] at hstart
    rw [Location.ofText, Location.absolute]
    cases hroot : Tree.Path.root? given.toList with
    | some double =>
      rw [hroot] at hstart
      cases hstart
      rw [locate, if_neg (by simp [hnames])]
      exact hbelow
    | none =>
      rw [hroot] at hstart
      rw [Option.isSome_none, if_neg Bool.false_ne_true, locate] at hstart
      split at hstart
      · cases hstart
      rename_i hcwd
      rw [locate, if_neg (by simp [hnames, hcwd]), List.foldlM_append, hstart, bind_ok]
      exact hbelow
  rw [lookUp, hlocate, bind_ok, hfound]

/-- **A file that is found word for word can be read.** -/
theorem read_of_examine {contents : List UInt8} (h : d.examine cwd given = .ok (.file contents)) :
    d.read ((Location.ofText given).absolute cwd) = .ok contents := by
  rw [read, lookUp_of_examine h]
  rfl

end Transplant.Disk
