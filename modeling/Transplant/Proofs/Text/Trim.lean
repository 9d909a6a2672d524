import Mathlib.Data.List.DropRight
import Mathlib.Data.List.TakeWhile
import Transplant.Text.Blank

/-!
# Trimming

What trimming takes off a text and what it leaves. In front of a character that stays, only the start of a text
is trimmed (`trimBy_concat`); what is left of a text neither begins nor ends with a blank (`trimmed_trim`), and a
text like that is left as it is (`trimBy_eq_self_iff`).
-/

namespace Transplant.Text

variable {p : Char → Bool} {cs : List Char} {c : Char}

theorem drop_takeWhile (p : Char → Bool) (cs : List Char) : cs.drop (cs.takeWhile p).length = cs.dropWhile p := by
  induction cs with
  | nil => rfl
  | cons c cs ih => by_cases hc : p c <;> simp [hc, ih]

/-! ## The end of a text -/

theorem dropWhileEnd_eq_rdropWhile (p : Char → Bool) (cs : List Char) :
    dropWhileEnd p cs = cs.rdropWhile p := rfl

theorem dropWhileEnd_append_of_pos {ds : List Char} (hds : ∀ d ∈ ds, p d) :
    dropWhileEnd p (cs ++ ds) = dropWhileEnd p cs := by
  rw [dropWhileEnd, List.reverse_append, List.dropWhile_append_of_pos]
  · rfl
  · intro d hd
    exact hds d (List.mem_reverse.1 hd)

theorem last_dropWhileEnd (h : (dropWhileEnd p cs).getLast? = some c) : p c = false := by
  rw [dropWhileEnd_eq_rdropWhile] at h
  have hne : cs.rdropWhile p ≠ [] := by
    rintro hnil
    rw [hnil] at h
    cases h
  have hlast := List.rdropWhile_last_not p cs hne
  rw [List.getLast?_eq_some_getLast hne, Option.some.injEq] at h
  rwa [h, Bool.not_eq_true] at hlast

theorem dropWhileEnd_of_last (h : ∀ c ∈ cs.getLast?, p c = false) : dropWhileEnd p cs = cs := by
  refine List.rdropWhile_eq_self_iff.2 fun hne => ?_
  rw [Bool.not_eq_true]
  exact h _ (List.getLast?_eq_some_getLast hne)

/-! ## Both ends -/

theorem dropWhile_append_cons_of_neg {ds : List Char} (hc : p c = false) :
    (cs ++ c :: ds).dropWhile p = cs.dropWhile p ++ c :: ds := by
  rw [List.dropWhile_append]
  split
  · rename_i hnil
    rw [List.isEmpty_iff.1 hnil, List.dropWhile_cons_of_neg (by simp [hc]), List.nil_append]
  · rfl

theorem trimBy_concat (hc : p c = false) : trimBy p (cs ++ [c]) = cs.dropWhile p ++ [c] := by
  rw [trimBy, dropWhile_append_cons_of_neg hc]
  exact List.rdropWhile_concat_neg p _ c (Bool.eq_false_iff.1 hc)

theorem trimBy_append_of_pos {ds : List Char} (hds : ∀ d ∈ ds, p d) : trimBy p (cs ++ ds) = trimBy p cs := by
  rw [trimBy, trimBy, List.dropWhile_append]
  split
  · rename_i hnil
    rw [List.isEmpty_iff.1 hnil, List.dropWhile_eq_nil_iff.2 hds]
  · exact dropWhileEnd_append_of_pos hds

theorem head_dropWhile (h : (cs.dropWhile p).head? = some c) : p c = false := by
  have hnot := List.head?_dropWhile_not p cs
  rw [h] at hnot
  simpa using hnot

/-- What is left of some characters without the blanks around them. -/
structure Trimmed (cs left : List Char) : Prop where
  split : ∃ front back, cs = front ++ left ++ back ∧ (∀ c ∈ front, isBlank c) ∧ ∀ c ∈ back, isBlank c
  head : ∀ c ∈ left.head?, isBlank c = false
  last : ∀ c ∈ left.getLast?, isBlank c = false

theorem Trimmed.count_eq {left : List Char} (h : Trimmed cs left) (hc : isBlank c = false) :
    left.count c = cs.count c := by
  obtain ⟨front, back, hsplit, hfront, hback⟩ := h.split
  have hno : ∀ blanks : List Char, (∀ d ∈ blanks, isBlank d) → blanks.count c = 0 := by
    intro blanks hblanks
    refine List.count_eq_zero.2 fun hmem => ?_
    rw [hblanks c hmem] at hc
    cases hc
  rw [hsplit, List.count_append, List.count_append, hno front hfront, hno back hback]
  omega

theorem trimmed_trimBy (cs : List Char) : Trimmed cs (trimBy isBlank cs) where
  split := by
    refine ⟨cs.takeWhile isBlank, (cs.dropWhile isBlank).rtakeWhile isBlank, ?_, ?_, ?_⟩
    · have hends : trimBy isBlank cs ++ (cs.dropWhile isBlank).rtakeWhile isBlank = cs.dropWhile isBlank :=
        List.rdropWhile_append_rtakeWhile
      rw [List.append_assoc, hends, List.takeWhile_append_dropWhile]
    · exact fun c hc => List.mem_takeWhile_imp hc
    · exact fun c hc => List.mem_rtakeWhile_imp hc
  head := by
    intro c hc
    obtain ⟨back, hback⟩ : trimBy isBlank cs <+: cs.dropWhile isBlank := List.rdropWhile_prefix _ _
    have hdropped : (cs.dropWhile isBlank).head? = some c := by
      rw [← hback, List.head?_append, show (trimBy isBlank cs).head? = some c from hc]
      rfl
    exact head_dropWhile hdropped
  last := fun c hc => last_dropWhileEnd hc

/-- What stays as it is under trimming neither begins nor ends with a blank. -/
theorem trimBy_eq_self_iff :
    trimBy isBlank cs = cs ↔ (∀ c ∈ cs.head?, isBlank c = false) ∧ ∀ c ∈ cs.getLast?, isBlank c = false := by
  constructor
  · intro h
    rw [← h]
    exact ⟨(trimmed_trimBy cs).head, (trimmed_trimBy cs).last⟩
  · rintro ⟨hhead, hlast⟩
    have hdrop : cs.dropWhile isBlank = cs := by
      cases cs with
      | nil => rfl
      | cons c rest => rw [List.dropWhile_cons_of_neg (by simp [hhead c rfl])]
    rw [trimBy, hdrop, dropWhileEnd_of_last hlast]

theorem toList_trim (s : String) : (trim s).toList = trimBy isBlank s.toList :=
  String.toList_ofList

theorem trimmed_trim (s : String) : Trimmed s.toList (trim s).toList := by
  rw [toList_trim]
  exact trimmed_trimBy s.toList

end Transplant.Text
