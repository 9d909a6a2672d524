import Transplant.Disk.Basic
import Transplant.Proofs.Outcome

/-!
# Updates of a disk

A walk passes directories only, and a file is put where there is no directory, so every walk that got to its end
before a file was put still does.

Main statements: a file that was updated is read back with its new contents (`read_update`), and a file that can
be read can be updated (`update_of_read`). Where a file can be written its directory is there, and making it leaves
the disk as it is (`ensureDirectories_of_update`).
-/

namespace Transplant.Disk

variable {d d' : Disk} {place : Place} {entry : Entry} {p : Tree.Path}

/-! ## Entries -/

/-- Some entries with those at a place replaced. -/
abbrev replaced (entries : List (Place × Entry)) (place : Place) (entry : Entry) : List (Place × Entry) :=
  entries.map fun e => if e.1 == place then (place, entry) else e

theorem find?_replaced_self {entries : List (Place × Entry)} (hthere : entries.any (·.1 == place) = true) :
    (replaced entries place entry).find? (·.1 == place) = some (place, entry) := by
  induction entries with
  | nil => simp at hthere
  | cons e rest ih =>
    rw [replaced, List.map_cons, List.find?_cons]
    cases he : e.1 == place with
    | true => simp
    | false =>
      rw [List.any_cons, he, Bool.false_or] at hthere
      simpa only [he, Bool.false_eq_true, if_false] using ih hthere

theorem find?_replaced_of_ne {entries : List (Place × Entry)} {other : Place} (hother : other ≠ place) :
    (replaced entries place entry).find? (·.1 == other) = entries.find? (·.1 == other) := by
  induction entries with
  | nil => rfl
  | cons e rest ih =>
    rw [replaced, List.map_cons, List.find?_cons, List.find?_cons, ih]
    cases he : e.1 == place with
    | true =>
      have hne : (e.1 == other) = false := by
        rw [eq_of_beq he]
        exact beq_eq_false_iff_ne.mpr hother.symm
      simp only [if_true, hne, beq_eq_false_iff_ne.mpr hother.symm]
    | false => simp only [Bool.false_eq_true, if_false]

theorem entry?_put_self (hplace : place ≠ []) : entry? (d.put place entry) place = some entry := by
  unfold entry? put
  rw [if_neg (by simpa using hplace)]
  split
  · rename_i hthere
    rw [find?_replaced_self hthere, Option.map_some]
  · rename_i hthere
    have hnone : d.entries.find? (·.1 == place) = none :=
      List.find?_eq_none.mpr fun e he heq => hthere (List.any_eq_true.mpr ⟨e, he, heq⟩)
    simp [List.find?_append, hnone]

theorem entry?_put_of_ne {other : Place} (hother : other ≠ place) :
    entry? (d.put place entry) other = d.entry? other := by
  unfold entry? put
  split
  · rfl
  split
  · rw [find?_replaced_of_ne hother]
  · simp [List.find?_append, hother.symm]

/-! ## Walks -/

theorem isDirectory_of_step {name : List Char} {next : Place} (h : d.step place name = .ok next) :
    d.entry? place = some .directory := by
  unfold step at h
  split at h
  · cases h
  · cases h
  · assumption

theorem step_put {start next : Place} {name : List Char} (hfree : d.entry? place ≠ some .directory)
    (h : d.step start name = .ok next) : (d.put place entry).step start name = .ok next := by
  have hdirectory := isDirectory_of_step h
  have hne : start ≠ place := by
    rintro rfl
    exact hfree hdirectory
  unfold step at h ⊢
  rw [entry?_put_of_ne hne]
  exact h

theorem foldlM_step_put {names : List (List Char)} {start last : Place}
    (hfree : d.entry? place ≠ some .directory) (h : names.foldlM d.step start = .ok last) :
    names.foldlM (d.put place entry).step start = .ok last := by
  induction names generalizing start with
  | nil => exact h
  | cons name rest ih =>
    rw [List.foldlM_cons] at h ⊢
    obtain ⟨next, hstep, h⟩ := ok_of_bind h
    rw [step_put hfree hstep, bind_ok]
    exact ih h

theorem locate_put {last : Place} (hfree : d.entry? place ≠ some .directory) (h : d.locate p = .ok last) :
    (d.put place entry).locate p = .ok last := by
  unfold locate at h ⊢
  split at h
  · cases h
  · rename_i hnull
    rw [if_neg hnull]
    exact foldlM_step_put hfree h

/-! ## Files -/

theorem read_of_locate (h : d.locate p = .ok place) :
    d.read p = match d.entry? place with
      | none => .error .missing
      | some .directory => .error .isDirectory
      | some (.file contents) => .ok contents := by
  rw [read, lookUp, h, bind_ok, found]
  cases d.entry? place with
  | none => rfl
  | some entry => cases entry <;> rfl

theorem read_of_not_located {why : Fault} (h : d.locate p = .error why) : d.read p = .error why := by
  rw [read, lookUp, h, bind_error, bind_error]

theorem update_of_locate {old : List UInt8} (h : d.locate p = .ok place)
    (hold : d.readForWriting place = .ok old) (f : List UInt8 → List UInt8) :
    d.update p f = .ok (d.put place (.file (f old))) := by
  rw [update, h, bind_ok, hold, bind_ok]
  rfl

theorem locate_of_update {f : List UInt8 → List UInt8} (h : d.update p f = .ok d') :
    ∃ place old, d.locate p = .ok place ∧ d.readForWriting place = .ok old := by
  obtain ⟨place, hplace, h⟩ := ok_of_bind h
  obtain ⟨old, hold, -⟩ := ok_of_bind h
  exact ⟨place, old, hplace, hold⟩

/-- Whether a file can be written at a path. -/
def CanWrite (d : Disk) (p : Tree.Path) : Prop :=
  ∃ place old, d.locate p = .ok place ∧ d.readForWriting place = .ok old

theorem canWrite_iff (f : List UInt8 → List UInt8) : d.CanWrite p ↔ ∃ d', d.update p f = .ok d' := by
  constructor
  · rintro ⟨place, old, hplace, hold⟩
    exact ⟨_, update_of_locate hplace hold f⟩
  · rintro ⟨d', hupdate⟩
    exact locate_of_update hupdate

/-- Where a file can be written there is no directory, so it is not the root either. -/
theorem free_of_readForWriting {old : List UInt8} (h : d.readForWriting place = .ok old) :
    d.entry? place ≠ some .directory ∧ place ≠ [] := by
  have hfree : d.entry? place ≠ some .directory := by
    intro hdirectory
    simp [readForWriting, hdirectory] at h
  refine ⟨hfree, ?_⟩
  rintro rfl
  exact hfree rfl

/-- **What was written is read back.** -/
theorem read_update {f : List UInt8 → List UInt8} (h : d.update p f = .ok d') :
    ∃ old, d'.read p = .ok (f old) := by
  obtain ⟨place, old, hplace, hold⟩ := locate_of_update h
  obtain ⟨hfree, hroot⟩ := free_of_readForWriting hold
  rw [update_of_locate hplace hold] at h
  obtain rfl := Except.ok.inj h
  exact ⟨old, by rw [read_of_locate (locate_put hfree hplace), entry?_put_self hroot]⟩

/-- **A file that can be read can be written.** -/
theorem update_of_read {contents : List UInt8} (h : d.read p = .ok contents) (f : List UInt8 → List UInt8) :
    ∃ d', d.update p f = .ok d' := by
  cases hplace : d.locate p with
  | error why =>
    rw [read_of_not_located hplace] at h
    cases h
  | ok place =>
    rw [read_of_locate hplace] at h
    split at h
    · cases h
    · cases h
    · rename_i old hentry
      have hold : d.readForWriting place = .ok old := by simp only [readForWriting, hentry]
      exact ⟨_, update_of_locate hplace hold f⟩

/-! ## Directories -/

variable {cwd : Tree.Path} {l : Location}

theorem isDirectory_iff :
    d.isDirectory p = true ↔ ∃ place, d.locate p = .ok place ∧ d.entry? place = some .directory := by
  unfold isDirectory lookUp
  cases d.locate p with
  | error why => simp [bind_error]
  | ok place =>
    rw [bind_ok, found]
    cases hentry : d.entry? place with
    | none => simp [hentry]
    | some entry => cases entry <;> simp [hentry]

/-- Making a directory that is there already leaves the disk as it is. -/
theorem ensureDirectory_of_isDirectory (h : d.isDirectory (l.absolute cwd) = true) :
    d.makeDirectory (l.absolute cwd) = .error .taken ∧ d.ensureDirectory cwd l = .ok d := by
  obtain ⟨place, hplace, hentry⟩ := isDirectory_iff.1 h
  have hmade : d.makeDirectory (l.absolute cwd) = .error .taken := by
    rw [makeDirectory, hplace, bind_ok, hentry]
    rfl
  refine ⟨hmade, ?_⟩
  rw [ensureDirectory, hmade]
  exact if_pos h

theorem ensureDirectories_of_isDirectory (h : d.isDirectory (l.absolute cwd) = true) :
    d.ensureDirectories cwd l = .ok d := by
  obtain ⟨hmade, hensured⟩ := ensureDirectory_of_isDirectory h
  rw [ensureDirectories]
  cases l.names.length with
  | zero => exact hensured
  | succ depth =>
    rw [ensureAbove, hmade]
    exact hensured

theorem isDirectory_of_locate_child {parent : Tree.Path} (front : List (List Char)) (name : List Char)
    (hp : p.names = front ++ [name]) (hparent : parent.names = front) (h : d.locate p = .ok place) :
    d.isDirectory parent = true := by
  unfold locate at h
  split at h
  · cases h
  rename_i hnull
  rw [hp, List.foldlM_append] at h
  obtain ⟨above, hfront, h⟩ := ok_of_bind h
  rw [List.foldlM_cons] at h
  obtain ⟨next, hstep, -⟩ := ok_of_bind h
  refine isDirectory_iff.2 ⟨above, ?_, isDirectory_of_step hstep⟩
  rw [locate, hparent, if_neg, hfront]
  simp only [hp, List.any_append, Bool.or_eq_true, not_or] at hnull
  exact hnull.1

/-- **Where a file can be written its directory is there.** -/
theorem ensureDirectories_of_update {f : List UInt8 → List UInt8} (hcwd : d.isDirectory cwd = true)
    (h : d.update (l.absolute cwd) f = .ok d') : d.ensureDirectories cwd l.parent = .ok d := by
  obtain ⟨place, old, hplace, hold⟩ := locate_of_update h
  obtain ⟨hfree, hroot⟩ := free_of_readForWriting hold
  refine ensureDirectories_of_isDirectory ?_
  rcases List.eq_nil_or_concat l.names with hnames | ⟨front, name, hnames⟩
  · exfalso
    obtain ⟨root, names⟩ := l
    obtain rfl : names = [] := hnames
    cases root with
    | some double =>
      obtain rfl : [] = place := Except.ok.inj hplace
      exact hroot rfl
    | none =>
      rw [Location.absolute, List.append_nil] at hplace
      obtain ⟨there, hthere, hentry⟩ := isDirectory_iff.1 hcwd
      obtain rfl : there = place := Except.ok.inj (hthere.symm.trans hplace)
      exact hfree hentry
  · obtain ⟨root, names⟩ := l
    obtain rfl : names = front ++ [name] := hnames.trans List.concat_eq_append
    cases root with
    | some double =>
      refine isDirectory_of_locate_child front name rfl ?_ hplace
      simp [Location.parent, Location.absolute]
    | none =>
      refine isDirectory_of_locate_child (cwd.names ++ front) name ?_ ?_ hplace
      · simp [Location.absolute]
      · simp [Location.parent, Location.absolute]

end Transplant.Disk
