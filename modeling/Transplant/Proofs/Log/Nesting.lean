import Mathlib.Data.List.Count
import Transplant.Proofs.Log.Mark

/-!
# Nesting

When the tags among some marks are properly nested and none is left open (`Layout.Closes`). Where they are, they still
are without the plain ones if and only if as many plain tags are closed by their names as are opened, that is if `</>`
ends no plain tag (`Layout.Closes.filter_iff`).
-/

namespace Transplant.Log

namespace Mark

@[simp]
def isOpening : Mark → Bool
  | .opening _ => true
  | _ => false

@[simp]
def isClosing : Mark → Bool
  | .closing _ => true
  | _ => false

/-- Whether as many plain tags are closed by their names as are opened. -/
def Named (marks : List Mark) : Prop :=
  (marks.filter isPlain).countP isOpening = (marks.filter isPlain).countP isClosing

instance (marks : List Mark) : Decidable (Named marks) :=
  inferInstanceAs (Decidable (_ = _))

end Mark

namespace Layout

/-- Whether some marks end the tags that are open and all that they open themselves. -/
def Closes (tags : OpenTags) (marks : List Mark) : Prop :=
  ∃ pieces, ofMarks? tags marks = some (pieces, [])

section

variable {tags after : OpenTags} {marks rest : List Mark} {m : Mark} {pieces : List Piece} {name : List Char} {c : Char}

theorem ofMarks?_cons_eq_some_iff :
    ofMarks? tags (m :: rest) = some (pieces, after) ↔
      ∃ piece tags' pieces', step? tags m = some (piece, tags') ∧ ofMarks? tags' rest = some (pieces', after) ∧
        piece :: pieces' = pieces := by
  simp only [ofMarks?, Option.bind_eq_bind, Option.bind_eq_some_iff, Option.pure_def, Option.some.injEq, Prod.exists,
    Prod.mk.injEq]
  constructor
  · rintro ⟨piece, tags', hstep, pieces', after, hrest, rfl, rfl⟩
    exact ⟨piece, tags', pieces', hstep, hrest, rfl⟩
  · rintro ⟨piece, tags', pieces', hstep, hrest, rfl⟩
    exact ⟨piece, tags', hstep, pieces', after, hrest, rfl, rfl⟩

theorem closes_nil : Closes tags [] ↔ tags = [] := by
  simp [Closes, ofMarks?]

theorem closes_cons :
    Closes tags (m :: rest) ↔ ∃ piece tags', step? tags m = some (piece, tags') ∧ Closes tags' rest := by
  simp only [Closes, ofMarks?_cons_eq_some_iff]
  constructor
  · rintro ⟨pieces, piece, tags', pieces', hstep, hrest, -⟩
    exact ⟨piece, tags', hstep, pieces', hrest⟩
  · rintro ⟨piece, tags', hstep, pieces', hrest⟩
    exact ⟨_, piece, tags', pieces', hstep, hrest, rfl⟩

theorem closes_char : Closes tags (.char c :: rest) ↔ Closes tags rest := by
  simp [closes_cons, step?]

theorem closes_opening :
    Closes tags (.opening name :: rest) ↔
      ∃ colour, Colour.ofName? name = some colour ∧ Closes ((name, colour) :: tags) rest := by
  simp [closes_cons, step?]

theorem closes_closing :
    Closes tags (.closing name :: rest) ↔
      ∃ last tags', tags = last :: tags' ∧ (name = [] ∨ name = last.1) ∧ Closes tags' rest := by
  cases tags with
  | nil => simp [closes_cons, step?]
  | cons last tags =>
    simp [closes_cons, step?]

theorem Closes.count (h : Closes tags marks) :
    marks.countP Mark.isClosing = tags.length + marks.countP Mark.isOpening := by
  induction marks generalizing tags with
  | nil => simp [closes_nil.1 h]
  | cons m rest ih =>
    cases m with
    | char c => simpa using ih (closes_char.1 h)
    | opening name =>
      obtain ⟨colour, -, hrest⟩ := closes_opening.1 h
      have hcount := ih hrest
      rw [List.length_cons] at hcount
      simp only [List.countP_cons, Mark.isClosing, Mark.isOpening, if_true, Bool.false_eq_true, if_false]
      omega
    | closing name =>
      obtain ⟨last, tags, rfl, -, hrest⟩ := closes_closing.1 h
      have hcount := ih hrest
      simp only [List.countP_cons, List.length_cons, Mark.isClosing, Mark.isOpening, if_true, Bool.false_eq_true,
        if_false]
      omega

/-- Each plain tag that is closed by its name was open. Where these are all of them, the others are nested without
them. -/
theorem Closes.without_plain (h : Closes tags marks) :
    (marks.filter Mark.isPlain).countP Mark.isClosing ≤
        tags.countP (isPlainName ·.1) + (marks.filter Mark.isPlain).countP Mark.isOpening ∧
      ((marks.filter Mark.isPlain).countP Mark.isClosing =
          tags.countP (isPlainName ·.1) + (marks.filter Mark.isPlain).countP Mark.isOpening →
        Closes (tags.filter (!isPlainName ·.1)) (marks.filter (!·.isPlain))) := by
  induction marks generalizing tags with
  | nil => simp [closes_nil.1 h, closes_nil]
  | cons m rest ih =>
    cases m with
    | char c =>
      obtain ⟨hle, hnested⟩ := ih (closes_char.1 h)
      rw [List.filter_cons_of_neg (by simp [Mark.isPlain]), List.filter_cons_of_pos rfl, closes_char]
      exact ⟨hle, hnested⟩
    | opening name =>
      obtain ⟨colour, hcolour, hrest⟩ := closes_opening.1 h
      obtain ⟨hle, hnested⟩ := ih hrest
      cases hname : isPlainName name with
      | true =>
        simp only [List.countP_cons, List.filter_cons, Mark.isPlain, hname, Mark.isOpening, Mark.isClosing, if_true,
          Bool.not_true, Bool.false_eq_true, if_false] at hle hnested ⊢
        exact ⟨by omega, fun heq => hnested (by omega)⟩
      | false =>
        simp only [List.countP_cons, List.filter_cons, Mark.isPlain, hname, if_true, Bool.not_false, Bool.false_eq_true,
          if_false, closes_opening] at hle hnested ⊢
        exact ⟨hle, fun heq => ⟨colour, hcolour, hnested heq⟩⟩
    | closing name =>
      obtain ⟨⟨last, colour⟩, tags, rfl, hlast, hrest⟩ := closes_closing.1 h
      obtain ⟨hle, hnested⟩ := ih hrest
      cases hname : isPlainName name with
      | true =>
        obtain rfl : name = last := hlast.resolve_left (isPlainName_iff.1 hname).1
        simp only [List.countP_cons, List.filter_cons, Mark.isPlain, hname, Mark.isOpening, Mark.isClosing, if_true,
          Bool.not_true, Bool.false_eq_true, if_false] at hle hnested ⊢
        exact ⟨by omega, fun heq => hnested (by omega)⟩
      | false =>
        simp only [List.countP_cons, List.filter_cons, Mark.isPlain, hname, if_true, Bool.not_false, Bool.false_eq_true,
          if_false, closes_closing] at hle hnested ⊢
        cases hplain : isPlainName last with
        | true =>
          -- the plain tag is ended without its name, and so one is left over
          simp only [if_true]
          exact ⟨by omega, fun heq => by omega⟩
        | false =>
          simp only [Bool.false_eq_true, if_false, Bool.not_false, if_true]
          exact ⟨hle, fun heq => ⟨_, _, rfl, hlast, hnested heq⟩⟩

/-- **Marks stay nested without their plain tags** if and only if none of these is closed without its name. -/
theorem Closes.filter_iff (h : Closes [] marks) : Closes [] (marks.filter (!·.isPlain)) ↔ Mark.Named marks := by
  constructor
  · intro hkept
    -- as many tags are closed as are opened, of all and of those that are kept, and so of the others
    have hall := h.count
    have hcount := hkept.count
    rw [List.countP_eq_countP_filter_add _ Mark.isClosing Mark.isPlain,
      List.countP_eq_countP_filter_add _ Mark.isOpening Mark.isPlain] at hall
    rw [Mark.Named]
    omega
  · intro hnamed
    exact h.without_plain.2 (by simpa using hnamed.symm)

end

end Layout

end Transplant.Log
