import Transplant.Text.Split

/-!
# Lines

The lines of a text are the only way to write it as pieces without line feeds that are joined by line feeds
(`isLines_iff`). A line feed in a text parts the lines in front of it from those behind it (`lines_append_cons`).
-/

namespace Transplant.Text

variable {sep : Char} {cs : List Char} {pieces : List (List Char)}

theorem splitOn_eq (sep : Char) (cs : List Char) : splitOn sep cs = List.splitOn sep cs := by
  induction cs with
  | nil => rfl
  | cons c cs ih =>
    rw [splitOn, ih, List.splitOn_cons_eq_if_modifyHead]
    split
    · rfl
    · cases hpieces : List.splitOn sep cs with
      | nil => exact absurd hpieces (List.splitOn_ne_nil sep cs)
      | cons piece pieces => rfl

theorem joinWith_eq (sep : Char) (pieces : List (List Char)) : joinWith sep pieces = [sep].intercalate pieces := by
  induction pieces with
  | nil => rfl
  | cons piece pieces ih =>
    cases pieces with
    | nil => simp [joinWith]
    | cons next pieces =>
      rw [joinWith, ih]
      · simp [List.intercalate]
      · simp

theorem mem_joinWith {c : Char} (h : c ∈ joinWith sep pieces) : c = sep ∨ ∃ piece ∈ pieces, c ∈ piece := by
  induction pieces with
  | nil => cases h
  | cons piece rest ih =>
    cases rest with
    | nil => exact .inr ⟨piece, List.mem_cons_self, h⟩
    | cons next rest =>
      rcases List.mem_append.1 h with h | h
      · exact .inr ⟨piece, List.mem_cons_self, h⟩
      rcases List.mem_cons.1 h with rfl | h
      · exact .inl rfl
      rcases ih h with hc | ⟨piece', hpiece', hc⟩
      · exact .inl hc
      · exact .inr ⟨piece', List.mem_cons_of_mem _ hpiece', hc⟩

/-- The pieces of a text consist of its other characters. -/
theorem of_mem_piece {piece : List Char} {d : Char} (h : piece ∈ splitOn sep cs) (hd : d ∈ piece) :
    d ∈ cs ∧ d ≠ sep := by
  induction cs generalizing piece with
  | nil =>
    rw [splitOn, List.mem_singleton] at h
    simp [h] at hd
  | cons c cs ih =>
    have hrest {other : List Char} (hother : other ∈ splitOn sep cs) (hmem : d ∈ other) : d ∈ c :: cs ∧ d ≠ sep :=
      ⟨List.mem_cons_of_mem _ (ih hother hmem).1, (ih hother hmem).2⟩
    rw [splitOn] at h
    split at h
    · rcases List.mem_cons.1 h with rfl | h
      · cases hd
      · exact hrest h hd
    · rename_i hc
      have hself : c ∈ c :: cs ∧ c ≠ sep := ⟨List.mem_cons_self, by simpa using hc⟩
      split at h
      · obtain rfl : d = c := by simpa [List.mem_singleton.1 h] using hd
        exact hself
      · rename_i first rest hsplit
        rcases List.mem_cons.1 h with rfl | h
        · rcases List.mem_cons.1 hd with rfl | hd
          · exact hself
          · exact hrest (hsplit ▸ List.mem_cons_self) hd
        · exact hrest (hsplit ▸ List.mem_cons_of_mem _ h) hd

theorem not_mem_of_mem_splitOn {piece : List Char} (h : piece ∈ splitOn sep cs) : sep ∉ piece :=
  fun hsep => (of_mem_piece h hsep).2 rfl

theorem mem_splitOn_of_mem (sep : Char) {d : Char} (h : d ∈ cs) : d = sep ∨ ∃ piece ∈ splitOn sep cs, d ∈ piece := by
  refine mem_joinWith ?_
  rwa [joinWith_eq, splitOn_eq, List.intercalate_splitOn]

/-- A text as its lines, which are joined by line feeds and have none themselves. -/
structure IsLines (cs : List Char) (lines : List (List Char)) : Prop where
  joined : joinWith '\n' lines = cs
  ne_nil : lines ≠ []
  unbroken : ∀ line ∈ lines, '\n' ∉ line

/-- **A text has only one way to be written as lines.** -/
theorem isLines_iff : IsLines cs pieces ↔ pieces = lines cs := by
  constructor
  · rintro ⟨rfl, hne, hunbroken⟩
    rw [lines, splitOn_eq, joinWith_eq, List.splitOn_intercalate '\n' hunbroken hne]
  · rintro rfl
    refine ⟨?_, ?_, fun line hline => not_mem_of_mem_splitOn hline⟩
    · rw [lines, joinWith_eq, splitOn_eq, List.intercalate_splitOn]
    · rw [lines, splitOn_eq]
      exact List.splitOn_ne_nil _ _

theorem lines_append_cons (cs ds : List Char) : lines (cs ++ '\n' :: ds) = lines cs ++ lines ds := by
  rw [lines, lines, lines, splitOn_eq, splitOn_eq, splitOn_eq, List.splitOn_append_cons_self]

/-- Characters in front of a text stand in front of its first line. -/
theorem lines_append_of_not_mem {front : List Char} (h : '\n' ∉ front) (cs : List Char) :
    ∃ first rest, lines cs = first :: rest ∧ lines (front ++ cs) = (front ++ first) :: rest := by
  obtain ⟨hjoined, hne, hunbroken⟩ := isLines_iff.2 (rfl : lines cs = lines cs)
  obtain ⟨first, rest, hlines⟩ := List.exists_cons_of_ne_nil hne
  rw [hlines] at hjoined hunbroken
  refine ⟨first, rest, hlines, (isLines_iff.1 ⟨?_, List.cons_ne_nil _ _, ?_⟩).symm⟩
  · rw [← hjoined, joinWith_eq, joinWith_eq]
    cases rest <;> simp [List.intercalate]
  · rw [List.forall_mem_cons] at hunbroken ⊢
    exact ⟨by simp [h, hunbroken.1], hunbroken.2⟩

theorem lines_of_not_mem (h : '\n' ∉ cs) : lines cs = [cs] := by
  rw [lines, splitOn_eq, List.splitOn_eq_singleton h]

end Transplant.Text
