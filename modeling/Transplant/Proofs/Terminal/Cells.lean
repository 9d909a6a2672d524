import Mathlib.Algebra.Ring.Nat
import Mathlib.Data.List.Chain
import Transplant.Terminal.Cells
import Transplant.Text.Blank

/-!
# Counting cells

The cells of two texts in a row are those of the one and the other (`cells_append`) unless a joiner at the end of the
first draws in the start of the second, or the second asks for the last character of the first to be drawn as a
picture. No cluster needs more than two cells, and the clusters of a text that does not begin with a joiner need as
many as the text (`tight_clusters`); so does every run of them (`Tight.cells_eq`).
-/

namespace Transplant.Terminal

variable {cs ds : List Char} {c : Char}

/-! ## Characters -/

theorem cellWidth_le_two (c : Char) : cellWidth c ≤ 2 := by
  unfold cellWidth
  grind

/-- Whether no number is in two ranges of two lists. -/
def apart (ranges others : List (Nat × Nat)) : Bool :=
  ranges.all fun r => others.all fun s => r.2 < s.1 || s.2 < r.1

theorem not_inRanges_of_apart {ranges others : List (Nat × Nat)} (h : apart ranges others) {n : Nat}
    (hn : Text.inRanges ranges n) : Text.inRanges others n = false := by
  simp only [apart, Text.inRanges, List.all_eq_true, List.any_eq_true, Bool.or_eq_true, decide_eq_true_eq,
    Bool.and_eq_true] at h hn
  obtain ⟨r, hr, hlow, hhigh⟩ := hn
  rw [Text.inRanges, List.any_eq_false]
  intro s hs
  have := h r hr s hs
  simp
  omega

theorem cellWidth_of_hasPicture (h : hasPicture c) : cellWidth c ≤ 1 := by
  have hapart : apart pictureForms doubleWidth := by decide +kernel
  have hwide := not_inRanges_of_apart hapart h
  unfold cellWidth
  grind

/-- The blanks as ranges of numbers. -/
def blankRanges : List (Nat × Nat) :=
  [(9, 13), (28, 32), (0x85, 0x85), (0xa0, 0xa0), (0x1680, 0x1680), (0x2000, 0x200a), (0x2028, 0x2029),
   (0x202f, 0x202f), (0x205f, 0x205f), (0x3000, 0x3000)]

theorem hasPicture_of_isBlank (h : Text.isBlank c) : hasPicture c = false := by
  have hapart : apart blankRanges pictureForms := by decide +kernel
  refine not_inRanges_of_apart hapart ?_
  simp only [Text.isBlank, Text.inRanges, blankRanges, List.any_cons, List.any_nil, Bool.or_eq_true, Bool.and_eq_true,
    decide_eq_true_eq, beq_iff_eq, Bool.false_eq_true] at h ⊢
  omega

theorem cellWidth_joiner : cellWidth joiner = 0 := by decide +kernel

theorem cellWidth_selector : cellWidth selector = 0 := by decide +kernel

theorem ne_joiner_of_cellWidth (h : cellWidth c ≠ 0) : c ≠ joiner := by
  rintro rfl
  exact h cellWidth_joiner

theorem ne_selector_of_cellWidth (h : cellWidth c ≠ 0) : c ≠ selector := by
  rintro rfl
  exact h cellWidth_selector

theorem ne_joiner_of_isBlank (h : Text.isBlank c) : c ≠ joiner := by
  rintro rfl
  exact absurd h (by decide)

theorem ne_selector_of_isBlank (h : Text.isBlank c) : c ≠ selector := by
  rintro rfl
  exact absurd h (by decide)

/-! ## Counting -/

namespace Count

/-- The count of some characters. -/
def of (cs : List Char) : Count :=
  cs.foldl add start

/-- Whether two counts go on alike. -/
structure Alike (m n : Count) : Prop where
  joined : m.joined = n.joined
  pictured : m.last.any hasPicture = n.last.any hasPicture

variable {m n : Count}

theorem joined_add (n : Count) (c : Char) : (n.add c).joined = (!n.joined && c == joiner) := by
  unfold add
  split
  · rename_i hjoined
    simp [hjoined]
  · rename_i hjoined
    rw [Bool.not_eq_true] at hjoined
    split
    · rename_i hc
      simp [hjoined, hc]
    · rename_i hc
      split
      · simp [hjoined, hc]
      · split <;> simp [hjoined, hc]

theorem Alike.add (h : Alike m n) (c : Char) :
    Alike (m.add c) (n.add c) ∧ (m.add c).cells + n.cells = (n.add c).cells + m.cells := by
  obtain ⟨hjoined, hpictured⟩ := h
  refine ⟨⟨by rw [joined_add, joined_add, hjoined], ?_⟩, ?_⟩
  · unfold Count.add
    rw [hjoined]
    split
    · exact hpictured
    · split
      · exact hpictured
      · split
        · rfl
        · split
          · exact hpictured
          · rfl
  · unfold Count.add
    rw [hjoined, hpictured]
    split
    · exact Nat.add_comm _ _
    · split
      · exact Nat.add_comm _ _
      · split
        · dsimp only
          omega
        · split
          · exact Nat.add_comm _ _
          · dsimp only
            omega

/-- Counts that go on alike differ by the cells that were counted before. -/
theorem Alike.foldl (h : Alike m n) (cs : List Char) :
    Alike (cs.foldl Count.add m) (cs.foldl Count.add n) ∧
      (cs.foldl Count.add m).cells + n.cells = (cs.foldl Count.add n).cells + m.cells := by
  induction cs generalizing m n with
  | nil => exact ⟨h, Nat.add_comm _ _⟩
  | cons c cs ih =>
    obtain ⟨hone, hcells⟩ := h.add c
    obtain ⟨hrest, hmore⟩ := ih hone
    refine ⟨hrest, ?_⟩
    rw [List.foldl_cons, List.foldl_cons]
    omega

theorem add_of_cellWidth (hjoined : n.joined = false) (hc : cellWidth c ≠ 0) :
    n.add c = ⟨n.cells + cellWidth c, some c, false⟩ := by
  have hj := ne_joiner_of_cellWidth hc
  have hs := ne_selector_of_cellWidth hc
  simp [add, hjoined, hj, hs, hc]

end Count

/-- Whether the characters behind some others are counted by themselves. -/
structure Parted (cs ds : List Char) : Prop where
  unjoined : (Count.of cs).joined = false
  pictureless : (Count.of cs).last.any hasPicture = false ∨ ∀ c ∈ ds.head?, cellWidth c ≠ 0

theorem cells_append (h : Parted cs ds) : cells (cs ++ ds) = cells cs + cells ds := by
  have hfold : cells (cs ++ ds) = (ds.foldl Count.add (Count.of cs)).cells := by
    rw [cells, List.foldl_append]
    rfl
  rcases h.pictureless with hlast | hhead
  · have halike : (Count.of cs).Alike Count.start := ⟨h.unjoined, hlast⟩
    have hcells := (halike.foldl ds).2
    change _ + 0 = cells ds + cells cs at hcells
    omega
  · cases ds with
    | nil => rw [List.append_nil]; rfl
    | cons c ds =>
      have hc := hhead c rfl
      have hbehind := Count.add_of_cellWidth h.unjoined hc
      have hstart := Count.add_of_cellWidth (n := Count.start) rfl hc
      -- the first character forgets what was counted before it
      have halike : ((Count.of cs).add c).Alike (Count.start.add c) := by
        rw [hbehind, hstart]
        exact ⟨rfl, rfl⟩
      have hcells := (halike.foldl ds).2
      have hwidth : ((Count.of cs).add c).cells = cells cs + (Count.start.add c).cells := by
        rw [hbehind, hstart]
        simp [cells, Count.of, Count.start]
      have hpart : cells (c :: ds) = (ds.foldl Count.add (Count.start.add c)).cells := rfl
      rw [List.foldl_cons] at hfold
      omega

theorem cells_le_append (cs ds : List Char) : cells cs ≤ cells (cs ++ ds) := by
  have hadd (n : Count) (c : Char) : n.cells ≤ (n.add c).cells := by
    unfold Count.add
    grind
  have hfold (n : Count) : n.cells ≤ (ds.foldl Count.add n).cells := by
    induction ds generalizing n with
    | nil => exact Nat.le_refl _
    | cons c ds ih => exact (hadd n c).trans (ih _)
  rw [cells, cells, List.foldl_append]
  exact hfold _

/-! ## Clusters -/

theorem Count.of_concat (cs : List Char) (c : Char) : Count.of (cs ++ [c]) = (Count.of cs).add c := by
  rw [Count.of, List.foldl_append]
  rfl

/-- A cluster that agrees with the count of its characters, and whether the next one is joined to them. -/
structure Cluster.Reads (k : Cluster) (joined : Bool) : Prop where
  ne_nil : k.text ≠ []
  cells_eq : (Count.of k.text).cells = k.cells
  joined_eq : (Count.of k.text).joined = joined
  base_eq : (Count.of k.text).last.any hasPicture = k.base.any hasPicture
  narrow : k.base.any hasPicture → k.cells ≤ 1
  le_two : k.cells ≤ 2

namespace Cluster

variable {k : Cluster} {joined : Bool}

theorem reads_ofChar (hc : c ≠ joiner) : (ofChar c).Reads false := by
  by_cases hwidth : cellWidth c = 0
  · by_cases hs : c = selector
    · subst hs
      constructor <;> decide +kernel
    · have hof : Count.of [c] = Count.start := by simp [Count.of, Count.add, Count.start, hc, hs, hwidth]
      constructor <;> simp [ofChar, hof, hwidth, Count.start]
  · have hof : Count.of [c] = ⟨cellWidth c, some c, false⟩ := by
      have hadd := Count.add_of_cellWidth (n := Count.start) rfl hwidth
      rw [Count.start, Nat.zero_add] at hadd
      exact hadd
    have hnarrow : hasPicture c → cellWidth c ≤ 1 := cellWidth_of_hasPicture
    constructor <;> simp [ofChar, hof, hwidth, cellWidth_le_two]
    exact hnarrow

/-- A character that needs no cell is attached, if it is counted without one. -/
theorem Reads.attach (h : k.Reads joined) (hcells : ((Count.of k.text).add c).cells = (Count.of k.text).cells)
    (hlast : ((Count.of k.text).add c).last = (Count.of k.text).last) :
    (k.attach c).Reads ((Count.of k.text).add c).joined where
  ne_nil := by simp [Cluster.attach]
  cells_eq := by
    rw [Cluster.attach, Count.of_concat, hcells]
    exact h.cells_eq
  joined_eq := by rw [Cluster.attach, Count.of_concat]
  base_eq := by
    rw [Cluster.attach, Count.of_concat, hlast]
    exact h.base_eq
  narrow := h.narrow
  le_two := h.le_two

theorem Reads.attach_joined (h : k.Reads true) (c : Char) : (k.attach c).Reads false := by
  have hadd : (Count.of k.text).add c = { Count.of k.text with joined := false } := by
    rw [Count.add, if_pos h.joined_eq]
  have hattach := h.attach (c := c) (by rw [hadd]) (by rw [hadd])
  rwa [hadd] at hattach

theorem Reads.attach_joiner (h : k.Reads false) : (k.attach joiner).Reads true := by
  have hadd : (Count.of k.text).add joiner = { Count.of k.text with joined := true } := by
    simp [Count.add, h.joined_eq]
  have hattach := h.attach (c := joiner) (by rw [hadd]) (by rw [hadd])
  rwa [hadd] at hattach

theorem Reads.attach_zero (h : k.Reads false) (hj : c ≠ joiner) (hs : c ≠ selector) (hc : cellWidth c = 0) :
    (k.attach c).Reads false := by
  have hadd : (Count.of k.text).add c = Count.of k.text := by
    simp [Count.add, h.joined_eq, hj, hs, hc]
  have hattach := h.attach (c := c) (by rw [hadd]) (by rw [hadd])
  rwa [hadd, h.joined_eq] at hattach

theorem Reads.attach_selector (h : k.Reads false) : (k.pictured.attach selector).Reads false := by
  have hadd : (Count.of k.text).add selector =
      ⟨k.cells + if k.base.any hasPicture then 1 else 0, none, false⟩ := by
    have hne : selector ≠ joiner := by decide
    rw [← h.cells_eq, ← h.base_eq]
    simp [Count.add, h.joined_eq, hne]
  by_cases hbase : k.base.any hasPicture
  · have hone := h.narrow hbase
    have hpictured : k.pictured = { k with cells := k.cells + 1, base := none } := by
      rw [Cluster.pictured, if_pos hbase]
    rw [if_pos hbase] at hadd
    constructor <;> simp [hpictured, Cluster.attach, Count.of_concat, hadd]
    omega
  · have hsame : k.pictured = k := by rw [Cluster.pictured, if_neg hbase]
    have htwo := h.le_two
    rw [if_neg hbase] at hadd
    constructor <;> simp_all [Cluster.attach, Count.of_concat]

theorem text_pictured (k : Cluster) : k.pictured.text = k.text := by
  unfold Cluster.pictured
  split <;> rfl

/-- What becomes of one more character: it goes to the present cluster, or it begins a new one. -/
theorem read_cons (k : Cluster) (joined : Bool) (c : Char) :
    (∃ k' joined', (∀ cs, read k joined (c :: cs) = read k' joined' cs) ∧ k'.text = k.text ++ [c] ∧
      (c ≠ selector → k'.cells = k.cells) ∧ (k.Reads joined → k'.Reads joined')) ∨
    (joined = false ∧ cellWidth c ≠ 0 ∧ ∀ cs, read k joined (c :: cs) = k :: read (ofChar c) false cs) := by
  by_cases hjoined : joined = true
  · subst hjoined
    exact Or.inl ⟨k.attach c, false, fun _ => rfl, rfl, fun _ => rfl, fun h => h.attach_joined c⟩
  · rw [Bool.not_eq_true] at hjoined
    subst hjoined
    by_cases hj : c = joiner
    · subst hj
      exact Or.inl ⟨k.attach joiner, true, fun _ => by simp [read], rfl, fun _ => rfl, Reads.attach_joiner⟩
    · by_cases hs : c = selector
      · subst hs
        exact Or.inl ⟨k.pictured.attach selector, false, fun _ => by simp [read, hj],
          by rw [Cluster.attach, text_pictured], fun h => absurd rfl h, Reads.attach_selector⟩
      · by_cases hc : cellWidth c = 0
        · exact Or.inl ⟨k.attach c, false, fun _ => by simp [read, hj, hs, hc], rfl, fun _ => rfl,
            fun h => h.attach_zero hj hs hc⟩
        · exact Or.inr ⟨rfl, hc, fun _ => by simp [read, hj, hs, hc]⟩

theorem flatMap_read (k : Cluster) (joined : Bool) (cs : List Char) :
    (read k joined cs).flatMap text = k.text ++ cs := by
  induction cs generalizing k joined with
  | nil => simp [read]
  | cons c cs ih =>
    rcases read_cons k joined c with ⟨k', joined', hread, htext, -, -⟩ | ⟨-, -, hread⟩
    · rw [hread, ih, htext, List.append_assoc, List.singleton_append]
    · rw [hread, List.flatMap_cons, ih]
      rfl

end Cluster

theorem flatMap_clusters (cs : List Char) : (clusters cs).flatMap Cluster.text = cs := by
  cases cs with
  | nil => rfl
  | cons c cs => exact Cluster.flatMap_read (.ofChar c) false cs

/-- A cluster of as many cells as its text, which are at most two. -/
structure Cluster.Counted (k : Cluster) : Prop where
  ne_nil : k.text ≠ []
  cells_eq : (Count.of k.text).cells = k.cells
  le_two : k.cells ≤ 2

/-- Whether a cluster that stands behind another one begins with a cell of its own, and is not drawn into it. -/
structure Cluster.Follows (before k : Cluster) : Prop where
  unjoined : (Count.of before.text).joined = false
  head : ∀ c ∈ k.text.head?, cellWidth c ≠ 0

/-- Whether some clusters are counted one by one. -/
structure Tight (ks : List Cluster) : Prop where
  counted : ∀ k ∈ ks, k.Counted
  chain : ks.IsChain Cluster.Follows

theorem Cluster.Reads.counted {k : Cluster} {joined : Bool} (h : k.Reads joined) : k.Counted :=
  ⟨h.ne_nil, h.cells_eq, h.le_two⟩

theorem tight_read {k : Cluster} {joined : Bool} (h : k.Reads joined) (cs : List Char) :
    Tight (Cluster.read k joined cs) ∧ ∀ k' ∈ (Cluster.read k joined cs).head?, k'.text.head? = k.text.head? := by
  induction cs generalizing k joined with
  | nil => exact ⟨⟨by simpa [Cluster.read] using h.counted, by simp [Cluster.read]⟩, by simp [Cluster.read]⟩
  | cons c cs ih =>
    rcases Cluster.read_cons k joined c with ⟨k', joined', hread, htext, -, hreads⟩ | ⟨rfl, hc, hread⟩
    · obtain ⟨htight, hhead⟩ := ih (hreads h)
      rw [hread]
      refine ⟨htight, fun first hfirst => ?_⟩
      rw [hhead first hfirst, htext, List.head?_append_of_ne_nil _ h.ne_nil]
    · obtain ⟨⟨hcounted, hchain⟩, hhead⟩ := ih (Cluster.reads_ofChar (ne_joiner_of_cellWidth hc))
      rw [hread]
      refine ⟨⟨List.forall_mem_cons.2 ⟨h.counted, hcounted⟩, List.isChain_cons.2 ⟨fun next hnext => ?_, hchain⟩⟩, ?_⟩
      · refine ⟨h.joined_eq, fun d hd => ?_⟩
        rw [hhead next hnext] at hd
        cases hd
        exact hc
      · rintro _ ⟨⟩
        rfl

/-- **The clusters of a text that does not begin with a joiner are counted one by one.** -/
theorem tight_clusters (h : cs.head? ≠ some joiner) : Tight (clusters cs) := by
  cases cs with
  | nil => exact ⟨nofun, .nil⟩
  | cons c cs =>
    have hc : c ≠ joiner := by
      rintro rfl
      exact h rfl
    exact (tight_read (Cluster.reads_ofChar hc) cs).1

namespace Tight

variable {ks rest : List Cluster} {k : Cluster}

theorem left (h : Tight (ks ++ rest)) : Tight ks :=
  ⟨fun k hk => h.counted k (List.mem_append_left _ hk), h.chain.left_of_append⟩

theorem right (h : Tight (ks ++ rest)) : Tight rest :=
  ⟨fun k hk => h.counted k (List.mem_append_right _ hk), h.chain.right_of_append⟩

theorem parted (h : Tight (k :: rest)) (hrest : rest ≠ []) : Parted k.text (rest.flatMap Cluster.text) := by
  obtain ⟨next, others, rfl⟩ := List.exists_cons_of_ne_nil hrest
  have hfollows := (List.isChain_cons_cons.1 h.chain).1
  have hnext := h.counted next (by simp)
  refine ⟨hfollows.unjoined, Or.inr fun c hc => hfollows.head c ?_⟩
  rwa [List.flatMap_cons, List.head?_append_of_ne_nil _ hnext.ne_nil] at hc

/-- A run of such clusters has the cells of its clusters. -/
theorem cells_eq (h : Tight ks) : cells (ks.flatMap Cluster.text) = (ks.map Cluster.cells).sum := by
  induction ks with
  | nil => rfl
  | cons k rest ih =>
    have hrest : Tight rest := (show Tight ([k] ++ rest) from h).right
    have hk : cells k.text = k.cells := (h.counted k List.mem_cons_self).cells_eq
    by_cases hnil : rest = []
    · subst hnil
      simp [hk]
    · rw [List.flatMap_cons, cells_append (h.parted hnil), ih hrest, hk, List.map_cons, List.sum_cons]

end Tight

end Transplant.Terminal
