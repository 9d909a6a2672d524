import Transplant.Proofs.Outcome
import Transplant.Terminal.Print

/-!
# Reading and showing tokens

A tag is read where its brackets are, and tokens are shown one after the other. A text is drawn if the styles of its
tags can be looked up (`visible_of_read`).
-/

namespace Transplant.Terminal.Markup

/-! ## Reading -/

theorem readTag_of_ne {c : Char} (hc : c ≠ '[') (rest : List Char) : readTag (c :: rest) = none := by
  unfold readTag
  split
  · rename_i heq
    exact absurd (List.cons.inj heq).1 hc
  · rfl

theorem readTag_bracketed {c : Char} {run : List Char} (hc : startsTag c = true)
    (hrun : ∀ x ∈ run, x ≠ '[' ∧ x ≠ ']') (after : List Char) :
    readTag (bracketed (c :: run) ++ after) = some (c :: run, after) := by
  have htake : (run ++ ']' :: after).takeWhile (fun x => x != '[' && x != ']') = run := by
    rw [List.takeWhile_append_of_pos (by simpa using hrun)]
    simp
  simp [bracketed, readTag, htake, hc]

/-! ## Showing -/

/-- The token of a run of text, if there is any. -/
def textTokens (cs : List Char) : List Token :=
  if cs.isEmpty then [] else [.text cs]

section

variable [Lexicon]

theorem showTokens_textTokens (position : Nat) (tags : List Opened) (cs : List Char) (rest : List Token) :
    showTokens position tags (textTokens cs ++ rest) =
      (showTokens (position + cs.length) tags rest).map (Seen.after (shown cs)) := by
  cases cs with
  | nil =>
    change showTokens position tags rest = (showTokens position tags rest).map id
    cases showTokens position tags rest <;> rfl
  | cons c run =>
    change showTokens position tags (.text (c :: run) :: rest) = _
    rw [showTokens]
    cases showTokens (position + (c :: run).length) tags rest <;> rfl

theorem showTokens_run (position : Nat) (tags : List Opened) (cs : List Char) :
    showTokens position tags (textTokens cs) = .ok ⟨shown cs, []⟩ := by
  rw [← List.append_nil (textTokens cs), showTokens_textTokens]
  change Except.ok (Seen.mk (shown cs ++ []) []) = _
  rw [List.append_nil]

end

/-! ## Drawing -/

/-- A text is drawn if each of its styles can be looked up. -/
theorem draw_of_check {seen : Seen} (h : ∀ definition ∈ seen.styles, Style.check definition = .ok ()) :
    seen.draw = .ok seen.text := by
  unfold Seen.draw
  rw [forM_eq_ok h]
  rfl

theorem text_of_draw {seen : Seen} {drawn : List Char} (h : seen.draw = .ok drawn) : drawn = seen.text := by
  unfold Seen.draw at h
  obtain ⟨_, -, h⟩ := ok_of_bind h
  exact (Except.ok.inj h).symm

theorem visible_of_read [Lexicon] {text : String} {seen : Seen} (h : read text = .ok seen)
    (hstyles : ∀ definition ∈ seen.styles, Style.check definition = .ok ()) :
    visible text = .ok seen.text := by
  rw [visible, h]
  exact draw_of_check hstyles

end Transplant.Terminal.Markup
