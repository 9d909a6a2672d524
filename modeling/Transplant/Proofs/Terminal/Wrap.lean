import Transplant.Proofs.Terminal.Cells
import Transplant.Proofs.Text.Lines
import Transplant.Proofs.Text.Trim
import Transplant.Terminal.Wrap

/-!
# Wrapping keeps the text

Lines of at least two cells show all of a text. What is cut off a line or put in its place are blanks at its end, so
that the lines without the blanks at their ends are the text without the blanks between them (`Wrapped`). The text has
to be counted word by word: no joiner stands next to a blank, and behind a blank that takes no cell no other character
without one (`Steady`).

Main statements: `wraps_layOut`, and `Wraps.solid_eq` for the characters that are not blank.
-/

namespace Transplant.Terminal

open Text

variable {cs ds : List Char} {width : Nat}

/-! ## Boundaries of words -/

/-- Whether two characters in a row are counted apart, if a word ends between them. -/
structure Beside (a b : Char) : Prop where
  front : a = joiner → isBlank b = false
  behind : isBlank a → b ≠ joiner
  narrow : isBlank a → cellWidth a = 0 → isBlank b = false → cellWidth b ≠ 0

instance (a b : Char) : Decidable (Beside a b) :=
  decidable_of_iff ((a = joiner → isBlank b = false) ∧ (isBlank a → b ≠ joiner) ∧
      (isBlank a → cellWidth a = 0 → isBlank b = false → cellWidth b ≠ 0))
    ⟨fun h => ⟨h.1, h.2.1, h.2.2⟩, fun h => ⟨h.front, h.behind, h.narrow⟩⟩

/-- Whether a text behind a space is counted word by word. -/
def Steady (cs : List Char) : Prop :=
  (' ' :: cs).IsChain Beside

instance (cs : List Char) : Decidable (Steady cs) :=
  inferInstanceAs (Decidable ((' ' :: cs).IsChain Beside))

theorem Steady.head (h : Steady cs) : cs.head? ≠ some joiner := by
  intro hjoiner
  exact ((List.isChain_cons.1 h).1 joiner hjoiner).behind (by decide) rfl

theorem getLast_of_joined (h : (Count.of cs).joined = true) : ∃ ds, cs = ds ++ [joiner] := by
  rcases List.eq_nil_or_concat cs with rfl | ⟨ds, c, rfl⟩
  · cases h
  · rw [List.concat_eq_append, Count.of_concat, Count.joined_add] at h
    obtain ⟨-, hc⟩ := Bool.and_eq_true_iff.1 h
    exact ⟨ds, by rw [List.concat_eq_append, beq_iff_eq.1 hc]⟩

theorem parted_of_beside {x : Char} (hx : isBlank x) (hchain : (cs ++ [x] ++ ds).IsChain Beside)
    (hds : ∀ y ∈ ds.head?, isBlank y = false) : Parted (cs ++ [x]) ds := by
  obtain ⟨hfront, -, hbehind⟩ := List.isChain_append.1 hchain
  have hne := ne_joiner_of_isBlank hx
  refine ⟨by simp [Count.of_concat, Count.joined_add, hne], ?_⟩
  by_cases hwidth : cellWidth x = 0
  · exact Or.inr fun y hy => (hbehind x (by simp) y hy).narrow hx hwidth (hds y hy)
  · have hunjoined : (Count.of cs).joined = false := by
      by_contra hjoined
      obtain ⟨before, rfl⟩ := getLast_of_joined (by simpa using hjoined)
      have hbeside := (List.isChain_append.1 hfront).2.2 joiner (by simp) x rfl
      rw [hbeside.front rfl] at hx
      cases hx
    rw [Count.of_concat, Count.add_of_cellWidth hunjoined hwidth]
    exact Or.inl (hasPicture_of_isBlank hx)

/-! ## Words -/

namespace Wrap

/-- A line in words: each has a character that is not blank, and ends with a blank where another one begins. -/
structure Words (cs : List Char) (ws : List (List Char)) : Prop where
  flatten : ws.flatten = cs
  word : ∀ w ∈ ws, ∃ c ∈ w, isBlank c = false
  ends : ws.IsChain fun w next => (∃ body x, w = body ++ [x] ∧ isBlank x) ∧ ∀ c ∈ next.head?, isBlank c = false

theorem readWords_succ (fuel : Nat) (cs : List Char) :
    readWords (fuel + 1) cs =
      let body := (cs.dropWhile isBlank).takeWhile fun c => !isBlank c
      let behind := (cs.dropWhile isBlank).dropWhile fun c => !isBlank c
      if body.isEmpty then []
      else
        (cs.takeWhile isBlank ++ body ++ behind.takeWhile isBlank) :: readWords fuel (behind.dropWhile isBlank) := by
  simp only [readWords, List.length_append, ← List.drop_drop, drop_takeWhile]

/-- The first word of a line that is not blank ends with a blank, if anything follows. -/
theorem exists_word (h : ∃ c ∈ cs, isBlank c = false) (fuel : Nat) :
    ∃ word tail, cs = word ++ tail ∧ readWords (fuel + 1) cs = word :: readWords fuel tail ∧
      (∃ c ∈ word, isBlank c = false) ∧ (∀ c ∈ tail.head?, isBlank c = false) ∧
      (tail ≠ [] → ∃ body x, word = body ++ [x] ∧ isBlank x) := by
  obtain ⟨c, hc, hblank⟩ := h
  obtain ⟨first, rest, hrest⟩ : ∃ first rest, cs.dropWhile isBlank = first :: rest := by
    refine List.exists_cons_of_ne_nil fun hnil => ?_
    have hall := List.dropWhile_eq_nil_iff.1 hnil c hc
    rw [hblank] at hall
    cases hall
  have hfirst : isBlank first = false := head_dropWhile (by rw [hrest]; rfl)
  have hbody : (first :: rest).takeWhile (fun c => !isBlank c) = first :: rest.takeWhile fun c => !isBlank c :=
    List.takeWhile_cons_of_pos (by simp [hfirst])
  have hbehind : (first :: rest).dropWhile (fun c => !isBlank c) = rest.dropWhile fun c => !isBlank c :=
    List.dropWhile_cons_of_pos (by simp [hfirst])
  have hinside := List.takeWhile_append_dropWhile (p := fun c => !isBlank c) (l := rest)
  have hhead : ∀ c ∈ (rest.dropWhile fun c => !isBlank c).head?, isBlank c := by
    intro c hc
    simpa using head_dropWhile hc
  rw [readWords_succ, hrest, hbody, hbehind]
  generalize rest.takeWhile (fun c => !isBlank c) = body at hinside
  generalize rest.dropWhile (fun c => !isBlank c) = behind at hinside hhead
  have hend : behind.takeWhile isBlank ++ behind.dropWhile isBlank = behind := List.takeWhile_append_dropWhile
  refine ⟨cs.takeWhile isBlank ++ (first :: body) ++ behind.takeWhile isBlank, behind.dropWhile isBlank, ?_, rfl,
    ⟨first, by simp, hfirst⟩, fun c hc => head_dropWhile hc, fun htail => ?_⟩
  · have hstart : cs.takeWhile isBlank ++ cs.dropWhile isBlank = cs := List.takeWhile_append_dropWhile
    rw [List.append_assoc, hend, List.append_assoc, List.cons_append, hinside, ← hrest, hstart]
  · obtain ⟨x, blanks, rfl⟩ := List.exists_cons_of_ne_nil (l := behind) (by
      rintro rfl
      exact htail rfl)
    have hx := hhead x rfl
    rcases List.eq_nil_or_concat ((x :: blanks).takeWhile isBlank) with hnil | ⟨ys, y, hy⟩
    · simp [hx] at hnil
    · rw [List.concat_eq_append] at hy
      have hmem : y ∈ (x :: blanks).takeWhile isBlank := by simp [hy]
      exact ⟨cs.takeWhile isBlank ++ (first :: body) ++ ys, y, by rw [hy, List.append_assoc _ ys],
        List.mem_takeWhile_imp hmem⟩

/-- A line that is empty or not only blank is read as its words. -/
theorem words_readWords {fuel : Nat} (hfuel : cs.length < fuel) (h : cs = [] ∨ ∃ c ∈ cs, isBlank c = false) :
    Words cs (readWords fuel cs) := by
  induction fuel generalizing cs with
  | zero => omega
  | succ fuel ih =>
    rcases h with rfl | h
    · exact ⟨rfl, nofun, .nil⟩
    · obtain ⟨word, tail, rfl, hread, hword, hhead, hends⟩ := exists_word h fuel
      have ⟨c, hc, _⟩ := hword
      have hlength : tail.length < fuel := by
        have := List.length_pos_of_mem hc
        rw [List.length_append] at hfuel
        omega
      obtain ⟨hflatten, hwords, hchain⟩ : Words tail (readWords fuel tail) := by
        refine ih hlength ?_
        cases tail with
        | nil => exact Or.inl rfl
        | cons c tail => exact Or.inr ⟨c, List.mem_cons_self, hhead c rfl⟩
      rw [hread]
      refine ⟨by rw [List.flatten_cons, hflatten], List.forall_mem_cons.2 ⟨hword, hwords⟩,
        List.isChain_cons.2 ⟨fun next hnext => ?_, hchain⟩⟩
      obtain ⟨others, hothers⟩ := List.head?_eq_some_iff.1 hnext
      obtain ⟨d, hd, -⟩ := hwords next (by simp [hothers])
      have hne : next ≠ [] := List.ne_nil_of_mem hd
      rw [hothers, List.flatten_cons] at hflatten
      refine ⟨hends ?_, fun c hc => hhead c ?_⟩
      · rw [← hflatten]
        simp [hne]
      · rwa [← hflatten, List.head?_append_of_ne_nil _ hne]

/-! ## Long words -/

/-- A piece of a text that fits a line. -/
structure Piece (width : Nat) (piece : List Char) : Prop where
  ne_nil : piece ≠ []
  head : piece.head? ≠ some joiner
  cells_le : cells piece ≤ width

theorem flatMap_ne_nil {ks : List Cluster} (h : Tight ks) (hne : ks ≠ []) : ks.flatMap Cluster.text ≠ [] := by
  obtain ⟨k, rest, rfl⟩ := List.exists_cons_of_ne_nil hne
  have hk := (h.counted k List.mem_cons_self).ne_nil
  simp [hk]

theorem pieces_of_chop (hwidth : 2 ≤ width) {first ks : List Cluster} (hfirst : first ≠ [])
    (htight : Tight (first ++ ks)) (hhead : (first.flatMap Cluster.text).head? ≠ some joiner)
    (hroom : (first.map Cluster.cells).sum ≤ width) :
    let pieces := chop width (first.map Cluster.cells).sum (first.flatMap Cluster.text) ks
    pieces.flatten = (first ++ ks).flatMap Cluster.text ∧ ∀ piece ∈ pieces, Piece width piece := by
  induction ks generalizing first with
  | nil =>
    rw [List.append_nil] at htight
    simp only [chop, List.flatten_singleton, List.append_nil, List.forall_mem_singleton, true_and]
    exact ⟨flatMap_ne_nil htight hfirst, hhead, htight.cells_eq ▸ hroom⟩
  | cons k rest ih =>
    have hk := htight.counted k (by simp)
    rw [chop]
    split
    case isTrue hfull =>
      have hkhead : ([k].flatMap Cluster.text).head? ≠ some joiner := by
        obtain ⟨last, hlast⟩ := List.getLast?_isSome.2 hfirst |> Option.isSome_iff_exists.1
        have hfollows := (List.isChain_append.1 htight.chain).2.2 last hlast k rfl
        intro hjoiner
        rw [List.flatMap_singleton] at hjoiner
        exact ne_joiner_of_cellWidth (hfollows.head joiner hjoiner) rfl
      have htwo : ([k].map Cluster.cells).sum ≤ width := by simpa using hk.le_two.trans hwidth
      obtain ⟨hflatten, hpieces⟩ := @ih [k] (List.cons_ne_nil _ _) htight.right hkhead htwo
      rw [List.map_singleton, List.sum_singleton, List.flatMap_singleton] at hflatten hpieces
      refine ⟨?_, List.forall_mem_cons.2 ⟨?_, hpieces⟩⟩
      · rw [List.flatten_cons, hflatten, List.flatMap_append]
        simp
      · exact ⟨flatMap_ne_nil htight.left hfirst, hhead, htight.left.cells_eq ▸ hroom⟩
    case isFalse hfits =>
      have hroom' : ((first ++ [k]).map Cluster.cells).sum ≤ width := by
        simp
        omega
      have hhead' : ((first ++ [k]).flatMap Cluster.text).head? ≠ some joiner := by
        rwa [List.flatMap_append, List.head?_append_of_ne_nil _ (flatMap_ne_nil htight.left hfirst)]
      have hmore := @ih (first ++ [k]) (by simp) (by simpa using htight) hhead' hroom'
      simpa using hmore

theorem addPieces_started (line last : List Char) (init : List (List Char)) :
    addPieces true line (init ++ [last]) = (line :: init, last) := by
  induction init generalizing line with
  | nil => rfl
  | cons piece init ih =>
    rw [List.cons_append, addPieces, if_pos rfl, ih]

/-- A word that is chopped at the start of the text or behind a finished line. -/
theorem addPieces_eq {pieces : List (List Char)} {started : Bool} {line : List Char} (hne : pieces ≠ [])
    (hpieces : ∀ piece ∈ pieces, Piece width piece) (hstart : started = true ↔ line ≠ []) :
    ∃ init last, pieces = init ++ [last] ∧
      addPieces started line pieces = ((if line = [] then [] else [line]) ++ init, last) := by
  cases started with
  | true =>
    rcases List.eq_nil_or_concat pieces with rfl | ⟨init, last, rfl⟩
    · exact absurd rfl hne
    · rw [List.concat_eq_append]
      exact ⟨init, last, rfl, by rw [addPieces_started, if_neg (hstart.1 rfl)]; rfl⟩
  | false =>
    have hline : line = [] := by
      by_contra h
      cases hstart.2 h
    subst hline
    obtain ⟨piece, rest, rfl⟩ := List.exists_cons_of_ne_nil hne
    have hpiece : piece.isEmpty = false := by
      have hne := (hpieces piece List.mem_cons_self).ne_nil
      simpa using hne
    rcases List.eq_nil_or_concat rest with rfl | ⟨init, last, rfl⟩
    · exact ⟨[], piece, rfl, by simp [addPieces]⟩
    · rw [List.concat_eq_append]
      exact ⟨piece :: init, last, rfl, by simp [addPieces, hpiece, addPieces_started]⟩

/-! ## Lines -/

/-- A line that fits a width up to the blanks at its end. -/
structure Fits (width : Nat) (line : List Char) : Prop where
  head : line.head? ≠ some joiner
  cells_le : cells (dropWhileEnd isBlank line) ≤ width

theorem exists_gap (w : List Char) : ∃ gap, w = dropWhileEnd isBlank w ++ gap ∧ ∀ c ∈ gap, isBlank c :=
  ⟨w.rtakeWhile isBlank, List.rdropWhile_append_rtakeWhile.symm, fun _ hc => List.mem_rtakeWhile_imp hc⟩

theorem dropWhileEnd_ne_nil {w : List Char} (h : ∃ c ∈ w, isBlank c = false) : dropWhileEnd isBlank w ≠ [] := by
  obtain ⟨c, hc, hblank⟩ := h
  obtain ⟨gap, hw, hgap⟩ := exists_gap w
  intro hnil
  rw [hnil, List.nil_append] at hw
  rw [hw] at hc
  rw [hgap c hc] at hblank
  cases hblank

theorem dropWhileEnd_append {w : List Char} (line : List Char) (h : ∃ c ∈ w, isBlank c = false) :
    dropWhileEnd isBlank (line ++ w) = line ++ dropWhileEnd isBlank w := by
  obtain ⟨gap, hw, hgap⟩ := exists_gap w
  have hlast : ∀ c ∈ (line ++ dropWhileEnd isBlank w).getLast?, isBlank c = false := by
    intro c hc
    rw [List.getLast?_append_of_ne_nil _ (dropWhileEnd_ne_nil h)] at hc
    exact last_dropWhileEnd hc
  have hsplit : line ++ w = (line ++ dropWhileEnd isBlank w) ++ gap := by rw [List.append_assoc, ← hw]
  rw [hsplit, dropWhileEnd_append_of_pos hgap, dropWhileEnd_of_last hlast]

theorem Piece.fits {piece : List Char} (h : Piece width piece) : Fits width piece := by
  obtain ⟨gap, hpiece, -⟩ := exists_gap piece
  have hle := cells_le_append (dropWhileEnd isBlank piece) gap
  rw [← hpiece] at hle
  exact ⟨h.head, hle.trans h.cells_le⟩

/-- A line to which words are still added. -/
structure Ready (width used : Nat) (started : Bool) (line : List Char) (ws : List (List Char)) : Prop where
  fits : Fits width line
  used_eq : used = cells line
  started_iff : started = true ↔ line ≠ []
  beside : (line ++ ws.flatten).IsChain Beside
  words : Words ws.flatten ws
  boundary : line ≠ [] → ∀ w ∈ ws.head?,
    (∃ body x, line = body ++ [x] ∧ isBlank x) ∧ ∀ c ∈ w.head?, isBlank c = false
  start : line = [] → ∀ w ∈ ws.head?, w.head? ≠ some joiner

namespace Ready

variable {used : Nat} {started : Bool} {line word : List Char} {rest : List (List Char)}

theorem word_ne_nil (h : Ready width used started line (word :: rest)) : word ≠ [] := by
  obtain ⟨c, hc, -⟩ := h.words.word word List.mem_cons_self
  exact List.ne_nil_of_mem hc

theorem head_word (h : Ready width used started line (word :: rest)) : word.head? ≠ some joiner := by
  by_cases hline : line = []
  · exact h.start hline word rfl
  · obtain ⟨⟨body, x, rfl, hx⟩, -⟩ := h.boundary hline word rfl
    intro hjoiner
    have hbeside := (List.isChain_append.1 h.beside).2.2 x (by simp) joiner (by
      rw [List.flatten_cons, List.head?_append_of_ne_nil _ h.word_ne_nil, hjoiner]
      rfl)
    exact hbeside.behind hx rfl

/-- What stands at the start of the next word is counted by itself. -/
theorem parted (h : Ready width used started line (word :: rest)) {part gap : List Char} (hword : word = part ++ gap)
    (hpart : part ≠ []) : Parted line part := by
  by_cases hline : line = []
  · subst hline
    exact ⟨rfl, Or.inl rfl⟩
  · obtain ⟨⟨body, x, rfl, hx⟩, hhead⟩ := h.boundary hline word rfl
    have hbeside := h.beside
    rw [List.flatten_cons, hword, List.append_assoc part, ← List.append_assoc _ part] at hbeside
    refine parted_of_beside hx hbeside.left_of_append fun y hy => hhead y ?_
    rw [hword, List.head?_append_of_ne_nil _ hpart]
    exact hy

theorem words_tail (h : Ready width used started line (word :: rest)) : Words rest.flatten rest :=
  ⟨rfl, fun w hw => h.words.word w (List.mem_cons_of_mem _ hw), h.words.ends.tail⟩

theorem boundary_tail (h : Ready width used started line (word :: rest)) {before : List Char} :
    ∀ w ∈ rest.head?, (∃ body x, before ++ word = body ++ [x] ∧ isBlank x) ∧ ∀ c ∈ w.head?, isBlank c = false := by
  intro w hw
  obtain ⟨⟨body, x, hword, hx⟩, hhead⟩ := (List.isChain_cons.1 h.words.ends).1 w hw
  exact ⟨⟨before ++ body, x, by rw [hword, List.append_assoc], hx⟩, hhead⟩

/-- The line that goes on with the next word. -/
theorem append (h : Ready width used started line (word :: rest))
    (hroom : used + cells (dropWhileEnd isBlank word) ≤ width) :
    Ready width (used + cells word) true (line ++ word) rest where
  fits := by
    have hnonblank := h.words.word word List.mem_cons_self
    refine ⟨?_, ?_⟩
    · by_cases hline : line = []
      · rw [hline]
        exact h.head_word
      · rw [List.head?_append_of_ne_nil _ hline]
        exact h.fits.head
    · obtain ⟨gap, hword, -⟩ := exists_gap word
      rw [dropWhileEnd_append line hnonblank, cells_append (h.parted hword (dropWhileEnd_ne_nil hnonblank)),
        ← h.used_eq]
      exact hroom
  used_eq := by rw [cells_append (h.parted (List.append_nil word).symm h.word_ne_nil), h.used_eq]
  started_iff := by simp [h.word_ne_nil]
  beside := by
    have hbeside := h.beside
    rwa [List.flatten_cons, ← List.append_assoc] at hbeside
  words := h.words_tail
  boundary := fun _ => h.boundary_tail
  start := by simp [h.word_ne_nil]

/-- The line that begins with the end of the next word. -/
theorem next (h : Ready width used started line (word :: rest)) {before last : List Char}
    (hword : word = before ++ last) (hlast : last ≠ []) (hfits : Fits width last) :
    Ready width (cells last) true last rest where
  fits := hfits
  used_eq := rfl
  started_iff := by simp [hlast]
  beside := by
    have hbeside := h.beside
    rw [List.flatten_cons, hword, List.append_assoc, ← List.append_assoc] at hbeside
    exact hbeside.right_of_append
  words := h.words_tail
  boundary := fun _ w hw => by
    obtain ⟨⟨body, x, hbody, hx⟩, hhead⟩ := (List.isChain_cons.1 h.words.ends).1 w hw
    refine ⟨?_, hhead⟩
    rcases List.eq_nil_or_concat last with hnil | ⟨ys, y, rfl⟩
    · exact absurd hnil hlast
    · rw [List.concat_eq_append] at hword ⊢
      rw [hbody, ← List.append_assoc] at hword
      obtain ⟨-, hxy⟩ := List.append_inj' hword rfl
      cases hxy
      exact ⟨ys, x, rfl, hx⟩
  start := fun hnil => absurd hnil hlast

/-- The pieces of a word that is too long for a line. -/
theorem pieces (hwidth : 2 ≤ width) (h : Ready width used started line (word :: rest)) :
    (chop width 0 [] (clusters word)).flatten = word ∧
      ∀ piece ∈ chop width 0 [] (clusters word), Piece width piece := by
  have htight := tight_clusters h.head_word
  have htext := flatMap_clusters word
  cases hks : clusters word with
  | nil =>
    rw [hks] at htext
    exact absurd htext.symm h.word_ne_nil
  | cons k ks =>
    rw [hks] at htight htext
    have hk := (htight.counted k List.mem_cons_self).le_two
    have hchop : chop width 0 [] (k :: ks) =
        chop width ([k].map Cluster.cells).sum ([k].flatMap Cluster.text) ks := by
      rw [chop, if_neg (by omega)]
      simp
    have hhead : ([k].flatMap Cluster.text).head? ≠ some joiner := by
      have hword := h.head_word
      rw [← htext, List.flatMap_cons,
        List.head?_append_of_ne_nil _ (htight.counted k List.mem_cons_self).ne_nil] at hword
      simpa using hword
    have hpieces := pieces_of_chop hwidth (List.cons_ne_nil k []) htight hhead (by simpa using hk.trans hwidth)
    rw [hchop]
    exact ⟨hpieces.1.trans htext, hpieces.2⟩

/-- A word that is too long for a line fills some lines, and the last of its pieces begins the next one. -/
theorem fold (hwidth : 2 ≤ width) (h : Ready width used started line (word :: rest)) :
    ∃ finished last, addPieces started line (chop width 0 [] (clusters word)) = (finished, last) ∧
      (chop width 0 [] (clusters word)).getLastD [] = last ∧ finished.flatten ++ last = line ++ word ∧
      (∀ l ∈ finished, Fits width l) ∧ Ready width (cells last) true last rest := by
  obtain ⟨hpieces, hfit⟩ := h.pieces hwidth
  have hne : chop width 0 [] (clusters word) ≠ [] := by
    intro hnil
    rw [hnil] at hpieces
    exact h.word_ne_nil hpieces.symm
  obtain ⟨init, last, hsplit, hadd⟩ := addPieces_eq hne hfit h.started_iff
  have hlast := hfit last (by simp [hsplit])
  have hword : word = init.flatten ++ last := by
    rw [← hpieces, hsplit, List.flatten_append, List.flatten_singleton]
  refine ⟨_, last, hadd, by rw [hsplit, List.getLastD_concat], ?_, fun l hl => ?_,
    h.next hword hlast.ne_nil hlast.fits⟩
  · rw [hword]
    split
    case isTrue hline => simp [hline]
    case isFalse => simp
  · rcases List.mem_append.1 hl with hl | hl
    · have hline : l = line := by
        split at hl
        · cases hl
        · exact List.mem_singleton.1 hl
      exact hline ▸ h.fits
    · exact (hfit l (by simp [hsplit, hl])).fits

end Ready

/-- **Words are put on lines that fit**, and nothing is lost between them. -/
theorem place_fits (hwidth : 2 ≤ width) {ws : List (List Char)} {used : Nat} {started : Bool} {line : List Char}
    (h : Ready width used started line ws) :
    (place width .fold used started line ws).flatten = line ++ ws.flatten ∧
      ∀ l ∈ place width .fold used started line ws, Fits width l := by
  induction ws generalizing used started line with
  | nil => exact ⟨by simp [place], by simpa [place] using h.fits⟩
  | cons word rest ih =>
    rw [place]
    dsimp only
    split
    case isTrue hroom =>
      obtain ⟨hflatten, hfits⟩ := ih (h.append hroom)
      exact ⟨by rw [hflatten, List.flatten_cons, List.append_assoc], hfits⟩
    case isFalse hfull =>
      split
      case isTrue hlong =>
        obtain ⟨finished, last, hadd, hgetLast, hwhole, hfinished, hready⟩ := h.fold hwidth
        obtain ⟨hflatten, hfits⟩ := ih hready
        rw [hadd, hgetLast]
        refine ⟨?_, List.forall_mem_append.2 ⟨hfinished, hfits⟩⟩
        rw [List.flatten_append, hflatten, ← List.append_assoc, hwhole, List.flatten_cons, List.append_assoc]
      case isFalse hshort =>
        have hneeded : cells (dropWhileEnd isBlank word) ≤ width := by simpa using hshort
        have hused : used ≠ 0 := by omega
        have hstarted : started = true := by
          refine h.started_iff.2 fun hnil => hused ?_
          rw [h.used_eq, hnil]
          rfl
        have hword : word = [] ++ word := rfl
        obtain ⟨hflatten, hfits⟩ := ih (h.next hword h.word_ne_nil ⟨h.head_word, hneeded⟩)
        rw [if_pos (by simp [hstarted, hused])]
        exact ⟨by rw [List.flatten_cons, hflatten, List.flatten_cons], List.forall_mem_cons.2 ⟨h.fits, hfits⟩⟩

/-- The empty line before the words of a text. -/
theorem ready_of_words {ws : List (List Char)} (hsteady : Steady cs) (hwords : Words cs ws) :
    Ready width 0 false [] ws where
  fits := ⟨nofun, Nat.zero_le _⟩
  used_eq := rfl
  started_iff := by simp
  beside := by
    rw [hwords.flatten]
    exact hsteady.tail
  words := by rwa [hwords.flatten]
  boundary := fun hne => absurd rfl hne
  start := fun _ word hword => by
    obtain ⟨rest, rfl⟩ := List.head?_eq_some_iff.1 hword
    obtain ⟨c, hc, -⟩ := hwords.word word List.mem_cons_self
    rw [← List.head?_append_of_ne_nil word (List.ne_nil_of_mem hc), ← List.flatten_cons, hwords.flatten]
    exact hsteady.head

theorem fits_of_blank (hhead : cs.head? ≠ some joiner) (hblank : ∀ c ∈ cs, isBlank c) : Fits width cs := by
  have hbody : dropWhileEnd isBlank cs = [] := by
    rw [← List.nil_append cs, dropWhileEnd_append_of_pos hblank]
    rfl
  refine ⟨hhead, ?_⟩
  rw [hbody]
  exact Nat.zero_le _

/-- A line is put on lines that fit, and nothing of it is lost between them. -/
theorem wrapLine_fits (hwidth : 2 ≤ width) (hsteady : Steady cs) (htab : '\t' ∉ cs) :
    (wrapLine width .fold cs).flatten = cs ∧ ∀ l ∈ wrapLine width .fold cs, Fits width l := by
  have hexpand : expandTabs 0 (splitOn '\t' cs) = cs := by
    rw [splitOn_eq, List.splitOn_eq_singleton htab]
    rfl
  rw [wrapLine, hexpand]
  by_cases hblank : ∃ c ∈ cs, isBlank c = false
  · have hwords := words_readWords (Nat.lt_succ_self cs.length) (Or.inr hblank)
    obtain ⟨word, rest, hws⟩ : ∃ word rest, readWords (cs.length + 1) cs = word :: rest := by
      refine List.exists_cons_of_ne_nil fun hnil => ?_
      obtain ⟨c, hc, -⟩ := hblank
      rw [← hwords.flatten, hnil] at hc
      cases hc
    rw [hws] at hwords ⊢
    obtain ⟨hplaced, hfits⟩ := place_fits hwidth (ready_of_words hsteady hwords)
    exact ⟨hplaced.trans hwords.flatten, hfits⟩
  · have hall : ∀ c ∈ cs, isBlank c := by
      intro c hc
      by_contra hno
      exact hblank ⟨c, hc, by simpa using hno⟩
    have hnone : readWords (cs.length + 1) cs = [] := by
      rw [readWords_succ, List.dropWhile_eq_nil_iff.2 hall]
      rfl
    rw [hnone]
    exact ⟨List.flatten_singleton, List.forall_mem_singleton.2 (fits_of_blank hsteady.head hall)⟩

/-! ## Ends of lines -/

theorem takeCells_prefix (room : Nat) (ks : List Cluster) : (takeCells room ks).1 <+: ks.flatMap Cluster.text := by
  induction ks generalizing room with
  | nil => exact List.prefix_rfl
  | cons k rest ih =>
    rw [takeCells]
    split
    · rw [List.flatMap_cons]
      exact (List.prefix_append_right_inj _).2 (ih _)
    · exact List.nil_prefix

theorem takeCells_append {ks : List Cluster} {room : Nat} (hroom : (ks.map Cluster.cells).sum ≤ room)
    (rest : List Cluster) : ∃ more, (takeCells room (ks ++ rest)).1 = ks.flatMap Cluster.text ++ more ∧
      more <+: rest.flatMap Cluster.text := by
  induction ks generalizing room with
  | nil => exact ⟨_, rfl, takeCells_prefix room rest⟩
  | cons k ks ih =>
    rw [List.map_cons, List.sum_cons] at hroom
    obtain ⟨more, htake, hmore⟩ := ih (show (ks.map Cluster.cells).sum ≤ room - k.cells by omega)
    refine ⟨more, ?_, hmore⟩
    rw [List.cons_append, takeCells, if_pos (by omega)]
    simp [htake]

theorem read_blanks {gap : List Char} (hgap : ∀ c ∈ gap, isBlank c) (k : Cluster) (joined : Bool) :
    ∃ k' rest front, Cluster.read k joined gap = k' :: rest ∧ k'.cells = k.cells ∧ k'.text = k.text ++ front ∧
      gap = front ++ rest.flatMap Cluster.text := by
  induction gap generalizing k joined with
  | nil => exact ⟨k, [], [], rfl, rfl, (List.append_nil _).symm, rfl⟩
  | cons c gap ih =>
    have hc := ne_selector_of_isBlank (hgap c List.mem_cons_self)
    rcases Cluster.read_cons k joined c with ⟨k', joined', hread, htext, hcells, -⟩ | ⟨-, -, hread⟩
    · obtain ⟨last, rest, front, hsplit, hsame, hlast, hrest⟩ :=
        ih (fun d hd => hgap d (List.mem_cons_of_mem _ hd)) k' joined'
      refine ⟨last, rest, c :: front, (hread gap).trans hsplit, hsame.trans (hcells hc), ?_, ?_⟩
      · rw [hlast, htext, List.append_assoc, List.singleton_append]
      · rw [List.cons_append, ← hrest]
    · refine ⟨k, Cluster.read (.ofChar c) false gap, [], hread gap, rfl, (List.append_nil _).symm, ?_⟩
      rw [Cluster.flatMap_read]
      rfl

/-- Blanks go to the last cluster of a text, which needs no more cells with them, or they are clusters behind it. -/
theorem read_append_blanks {gap : List Char} (hgap : ∀ c ∈ gap, isBlank c) (k : Cluster) (joined : Bool)
    (cs : List Char) :
    ∃ ks rest front, Cluster.read k joined (cs ++ gap) = ks ++ rest ∧
      (ks.map Cluster.cells).sum = ((Cluster.read k joined cs).map Cluster.cells).sum ∧
      ks.flatMap Cluster.text = k.text ++ cs ++ front ∧ gap = front ++ rest.flatMap Cluster.text := by
  induction cs generalizing k joined with
  | nil =>
    obtain ⟨k', rest, front, hread, hcells, htext, hrest⟩ := read_blanks hgap k joined
    exact ⟨[k'], rest, front, hread, by simp [Cluster.read, hcells], by simp [htext], hrest⟩
  | cons c cs ih =>
    rcases Cluster.read_cons k joined c with ⟨k', joined', hread, htext, -, -⟩ | ⟨-, -, hread⟩
    · obtain ⟨ks, rest, front, hsplit, hsum, hks, hrest⟩ := ih k' joined'
      rw [List.cons_append, hread, hread]
      refine ⟨ks, rest, front, hsplit, hsum, ?_, hrest⟩
      rw [hks, htext, List.append_assoc k.text, List.singleton_append]
    · obtain ⟨ks, rest, front, hsplit, hsum, hks, hrest⟩ := ih (.ofChar c) false
      rw [List.cons_append, hread, hread]
      refine ⟨k :: ks, rest, front, by rw [hsplit, List.cons_append], by simp [hsum], ?_, hrest⟩
      rw [List.flatMap_cons, hks]
      simp [Cluster.ofChar]

/-- A line that fits up to blanks at its end is cut within these blanks. -/
theorem crop_blanks {body gap : List Char} (hhead : body.head? ≠ some joiner) (hbody : cells body ≤ width)
    (hgap : ∀ c ∈ gap, isBlank c) : ∃ gap', crop width (body ++ gap) = body ++ gap' ∧ ∀ c ∈ gap', isBlank c := by
  rw [crop]
  split
  case isTrue => exact ⟨gap, rfl, hgap⟩
  case isFalse =>
    have hspaces (n : Nat) : ∀ c ∈ List.replicate n ' ', isBlank c := by
      intro c hc
      rw [List.eq_of_mem_replicate hc]
      decide
    obtain ⟨kept, htake, hkept⟩ : ∃ kept, (takeCells width (clusters (body ++ gap))).1 = body ++ kept ∧
        ∀ c ∈ kept, isBlank c := by
      cases body with
      | nil =>
        have hkept := takeCells_prefix width (clusters ([] ++ gap))
        rw [flatMap_clusters] at hkept
        exact ⟨_, rfl, fun c hc => hgap c (hkept.subset hc)⟩
      | cons c body =>
        have hsum := (tight_clusters hhead).cells_eq
        rw [flatMap_clusters] at hsum
        obtain ⟨ks, rest, front, hsplit, hcells, hks, hrest⟩ := read_append_blanks hgap (.ofChar c) false body
        have hroom : (ks.map Cluster.cells).sum ≤ width := by
          rw [hcells]
          exact hsum ▸ hbody
        obtain ⟨more, htake, hmore⟩ := takeCells_append hroom rest
        refine ⟨front ++ more, ?_, fun d hd => hgap d ?_⟩
        · rw [List.cons_append, clusters, hsplit, htake, hks]
          simp [Cluster.ofChar]
        · rw [hrest]
          rcases List.mem_append.1 hd with hd | hd
          · exact List.mem_append_left _ hd
          · exact List.mem_append_right _ (hmore.subset hd)
    refine ⟨kept ++ List.replicate (takeCells width (clusters (body ++ gap))).2 ' ', ?_, fun c hc => ?_⟩
    · dsimp only
      rw [htake, List.append_assoc]
    · exact (List.mem_append.1 hc).elim (hkept c) (hspaces _ c)

theorem trimExcess_blanks (width : Nat) (line : List Char) :
    ∃ gap, trimExcess width line = dropWhileEnd isBlank line ++ gap ∧ ∀ c ∈ gap, isBlank c := by
  obtain ⟨gap, hline, hgap⟩ := exists_gap line
  have hlength := congrArg List.length hline
  rw [List.length_append] at hlength
  rw [trimExcess]
  generalize hcut : line.length - _ = kept
  have hkept : (dropWhileEnd isBlank line).length ≤ kept := by omega
  refine ⟨gap.take (kept - (dropWhileEnd isBlank line).length), ?_, fun c hc => hgap c (List.mem_of_mem_take hc)⟩
  conv_lhs => rw [hline]
  rw [List.take_append, List.take_of_length_le hkept]

/-! ## Texts -/

/-- Whether a line shows a piece of a text, up to the blanks where they end. -/
def Shows (piece line : List Char) : Prop :=
  ∃ body gap gap', piece = body ++ gap ∧ line = body ++ gap' ∧ (∀ c ∈ gap, isBlank c) ∧ ∀ c ∈ gap', isBlank c

theorem shows_justified {line : List Char} (h : Fits width line) :
    Shows line (justified width .fold .none (trimExcess width line)) := by
  obtain ⟨gap, hline, hgap⟩ := exists_gap line
  obtain ⟨left, htrim, hleft⟩ := trimExcess_blanks width line
  have hhead : (dropWhileEnd isBlank line).head? ≠ some joiner := by
    intro hjoiner
    refine h.head ?_
    rw [hline, List.head?_append, hjoiner]
    rfl
  obtain ⟨gap', hcrop, hgap'⟩ := crop_blanks hhead h.cells_le hleft
  rw [htrim, justified, truncate]
  split
  case isTrue => exact ⟨_, gap, left, hline, rfl, hgap, hleft⟩
  case isFalse => exact ⟨_, gap, gap', hline, hcrop, hgap, hgap'⟩

end Wrap

/-- Whether lines are a text that was wrapped: all of it is shown in them, up to the blanks where they end. -/
def Wrapped (cs : List Char) (lines : List (List Char)) : Prop :=
  ∃ pieces, pieces.flatten = cs ∧ List.Forall₂ Wrap.Shows pieces lines

theorem wrapped_wrapLine (hwidth : 2 ≤ width) (hsteady : Steady cs) (htab : '\t' ∉ cs) :
    Wrapped cs ((Wrap.wrapLine width .fold cs).map fun l =>
      Wrap.justified width .fold .none (Wrap.trimExcess width l)) := by
  obtain ⟨hflatten, hfits⟩ := Wrap.wrapLine_fits hwidth hsteady htab
  refine ⟨_, hflatten, List.forall₂_map_right_iff.2 (List.forall₂_same.2 fun l hl => ?_)⟩
  exact Wrap.shows_justified (hfits l hl)

/-- Whether an output is a text whose lines were wrapped. -/
def Wraps (cs output : List Char) : Prop :=
  ∃ blocks, List.Forall₂ Wrapped (lines cs) blocks ∧ output = joinWith '\n' blocks.flatten

/-- **Wrapping keeps each line of a text.** -/
theorem wraps_layOut (hwidth : 2 ≤ width) (hsteady : ∀ line ∈ lines cs, Steady line) (htab : '\t' ∉ cs) :
    Wraps cs (layOut width cs) := by
  refine ⟨(lines cs).map fun line => (Wrap.wrapLine width .fold line).map fun l =>
    Wrap.justified width .fold .none (Wrap.trimExcess width l), ?_, ?_⟩
  · refine List.forall₂_map_right_iff.2 (List.forall₂_same.2 fun line hline => ?_)
    exact wrapped_wrapLine hwidth (hsteady line hline) fun htab' => htab (of_mem_piece hline htab').1
  · rw [layOut, wrap, List.flatMap_def]

/-- **Wrapping keeps each line of a text behind a sign.** -/
theorem wraps_behind {sign : List Char} (hsign : Steady (sign ++ [' ']) ∧ '\n' ∉ sign ∧ '\t' ∉ sign)
    (hwidth : 2 ≤ width) (hsteady : ∀ line ∈ lines cs, Steady line) (htab : '\t' ∉ cs) :
    Wraps (sign ++ ' ' :: cs) (layOut width (sign ++ ' ' :: cs)) := by
  obtain ⟨hchain, hbreak, hnoTab⟩ := hsign
  have hfront : '\n' ∉ sign ++ [' '] := by simp [hbreak]
  obtain ⟨first, rest, hlines, hbehind⟩ := lines_append_of_not_mem hfront cs
  rw [List.append_assoc, List.singleton_append] at hbehind
  rw [hlines, List.forall_mem_cons] at hsteady
  refine wraps_layOut hwidth ?_ (by simp [htab, hnoTab])
  rw [hbehind, List.forall_mem_cons, List.append_assoc, List.singleton_append]
  have hsplit := @List.isChain_split _ Beside ' ' (' ' :: sign) first
  exact ⟨hsplit.2 ⟨hchain, hsteady.1⟩, hsteady.2⟩

/-! ## Characters that are not blank -/

/-- The characters of a text that are not blank. -/
def solid (cs : List Char) : List Char :=
  cs.filter fun c => !isBlank c

theorem solid_append (cs ds : List Char) : solid (cs ++ ds) = solid cs ++ solid ds :=
  List.filter_append _ _

theorem solid_of_blank (h : ∀ c ∈ cs, isBlank c) : solid cs = [] :=
  List.filter_eq_nil_iff.2 fun c hc => by simp [h c hc]

theorem solid_flatten {pieces ls : List (List Char)}
    (h : List.Forall₂ (fun piece l => solid piece = solid l) pieces ls) : solid pieces.flatten = solid ls.flatten := by
  induction h with
  | nil => rfl
  | cons hfirst _ ih => rw [List.flatten_cons, List.flatten_cons, solid_append, solid_append, hfirst, ih]

theorem solid_joinWith (ls : List (List Char)) : solid (joinWith '\n' ls) = solid ls.flatten := by
  induction ls with
  | nil => rfl
  | cons l ls ih =>
    cases ls with
    | nil => rw [joinWith, List.flatten_singleton]
    | cons next ls =>
      have hbreak (cs : List Char) : solid ('\n' :: cs) = solid cs := List.filter_cons_of_neg (by decide)
      rw [joinWith, solid_append, hbreak, ih, ← solid_append]
      · rfl
      · exact List.cons_ne_nil _ _

theorem Wrap.Shows.solid_eq {piece line : List Char} (h : Wrap.Shows piece line) : solid piece = solid line := by
  obtain ⟨body, gap, gap', rfl, rfl, hgap, hgap'⟩ := h
  rw [solid_append, solid_append, solid_of_blank hgap, solid_of_blank hgap']

theorem Wrapped.solid_eq {ls : List (List Char)} (h : Wrapped cs ls) : solid cs = solid ls.flatten := by
  obtain ⟨pieces, rfl, hshows⟩ := h
  exact solid_flatten (hshows.imp fun _ _ => Wrap.Shows.solid_eq)

/-- **Wrapping takes and adds blanks only.** -/
theorem Wraps.solid_eq {output : List Char} (h : Wraps cs output) : solid output = solid cs := by
  obtain ⟨blocks, hblocks, rfl⟩ := h
  have hlines := (isLines_iff.2 (rfl : lines cs = lines cs)).joined
  have hall : List.Forall₂ (fun line l => solid line = solid l) (lines cs) (blocks.map List.flatten) :=
    List.forall₂_map_right_iff.2 (hblocks.imp fun _ _ => Wrapped.solid_eq)
  rw [solid_joinWith, List.flatten_flatten, ← solid_flatten hall, ← solid_joinWith, hlines]

/-- What is printed with other characters than a text is not the text in wrapped lines. -/
theorem not_wraps_of_solid {printed : String} (hne : solid printed.toList ≠ solid cs) :
    ¬∃ output, Wraps cs output ∧ printed = String.ofList output ++ "\n" := by
  rintro ⟨output, hwraps, rfl⟩
  refine hne ?_
  rw [String.toList_append, String.toList_ofList, solid_append, hwraps.solid_eq]
  exact List.append_nil _

end Transplant.Terminal
