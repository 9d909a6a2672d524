import Transplant.Proofs.Log.Colour
import Transplant.Proofs.Log.Nesting
import Transplant.Proofs.Log.Template

/-!
# Layouts in colours and without

A line in colours is the line without them with escape sequences put in (`Layout.render?_tinted`), and that line only
depends on the characters and slots of the layout (`Layout.render?_eq_of_shown`). These stay where plain tags are dropped
from a format whose parts are separable (`Part.IsSeparable`), so that the plain format has the same text, if it is one:
`Layout.parse?_plainFormat`.
-/

namespace Transplant.Log

/-- Whether a piece is shown without colours. -/
def Piece.isShown : Piece → Bool
  | .char _ | .slot _ => true
  | .colour _ | .reset _ => false

/-- Whether a piece switches colours on by sequences for colours only. -/
def Piece.IsCoded : Piece → Prop
  | .colour c => c.IsCoded
  | .reset remaining => ∀ c ∈ remaining, c.IsCoded
  | .char _ | .slot _ => True

/-- What is shown of a mark. -/
def Mark.shown : Mark → List Piece
  | .char c => [.char c]
  | .opening _ | .closing _ => []

/-- What is shown of a part. -/
def Part.shown : Part → List Piece
  | .text cs => (Mark.read 0 cs).flatMap Mark.shown
  | .slot s => [.slot s]

/-- The marks in a part. -/
def Part.marks : Part → List Mark
  | .text cs => Mark.read 0 cs
  | .slot _ => []

namespace Layout

/-! ## Pieces -/

section

variable {tags after : OpenTags} {marks rest : List Mark} {m : Mark} {piece : Piece} {pieces : List Piece}
  {parts : List Part} {cs : List Char} {s : Slot}

theorem step?_shown (h : step? tags m = some (piece, after)) : [piece].filter Piece.isShown = m.shown := by
  cases m with
  | char c =>
    cases h
    rfl
  | opening name =>
    obtain ⟨colour, -, heq⟩ := Option.map_eq_some_iff.1 h
    cases heq
    rfl
  | closing name =>
    cases tags with
    | nil => cases h
    | cons last tags =>
      simp only [step?, Option.ite_none_right_eq_some, Option.some.injEq, Prod.mk.injEq] at h
      obtain ⟨-, rfl, -⟩ := h
      rfl

theorem step?_coded (h : step? tags m = some (piece, after)) (htags : ∀ tag ∈ tags, tag.2.IsCoded) :
    piece.IsCoded ∧ ∀ tag ∈ after, tag.2.IsCoded := by
  cases m with
  | char c =>
    cases h
    exact ⟨trivial, htags⟩
  | opening name =>
    obtain ⟨colour, hcolour, heq⟩ := Option.map_eq_some_iff.1 h
    cases heq
    have hcoded := Colour.isCoded_of_ofName? hcolour
    exact ⟨hcoded, List.forall_mem_cons.2 ⟨hcoded, htags⟩⟩
  | closing name =>
    cases tags with
    | nil => cases h
    | cons last tags =>
      simp only [step?, Option.ite_none_right_eq_some, Option.some.injEq, Prod.mk.injEq] at h
      obtain ⟨-, rfl, rfl⟩ := h
      have htags' := (List.forall_mem_cons.1 htags).2
      refine ⟨fun colour hcolour => ?_, htags'⟩
      obtain ⟨tag, htag, rfl⟩ := List.mem_map.1 hcolour
      exact htags' tag (List.mem_reverse.1 htag)

theorem ofMarks?_shown (h : ofMarks? tags marks = some (pieces, after)) :
    pieces.filter Piece.isShown = marks.flatMap Mark.shown := by
  induction marks generalizing tags pieces with
  | nil =>
    cases h
    rfl
  | cons m rest ih =>
    obtain ⟨piece, tags', pieces', hstep, hrest, rfl⟩ := ofMarks?_cons_eq_some_iff.1 h
    rw [← List.singleton_append, List.filter_append, step?_shown hstep, ih hrest, List.flatMap_cons]

theorem ofMarks?_coded (h : ofMarks? tags marks = some (pieces, after)) (htags : ∀ tag ∈ tags, tag.2.IsCoded) :
    (∀ piece ∈ pieces, piece.IsCoded) ∧ ∀ tag ∈ after, tag.2.IsCoded := by
  induction marks generalizing tags pieces with
  | nil =>
    cases h
    exact ⟨nofun, htags⟩
  | cons m rest ih =>
    obtain ⟨piece, tags', pieces', hstep, hrest, rfl⟩ := ofMarks?_cons_eq_some_iff.1 h
    obtain ⟨hpiece, htags'⟩ := step?_coded hstep htags
    obtain ⟨hpieces, hafter⟩ := ih hrest htags'
    exact ⟨List.forall_mem_cons.2 ⟨hpiece, hpieces⟩, hafter⟩

theorem closes_append :
    Closes tags (marks ++ rest) ↔ ∃ pieces tags', ofMarks? tags marks = some (pieces, tags') ∧ Closes tags' rest := by
  induction marks generalizing tags with
  | nil => simp [ofMarks?]
  | cons m marks ih =>
    rw [List.cons_append, closes_cons]
    simp only [ih, ofMarks?_cons_eq_some_iff]
    constructor
    · rintro ⟨piece, tags', hstep, pieces, after, hmarks, hrest⟩
      exact ⟨_, after, ⟨piece, tags', pieces, hstep, hmarks, rfl⟩, hrest⟩
    · rintro ⟨_, after, ⟨piece, tags', pieces, hstep, hmarks, rfl⟩, hrest⟩
      exact ⟨piece, tags', hstep, pieces, after, hmarks, hrest⟩

theorem ofParts?_nil_eq_some_iff : ofParts? tags [] = some pieces ↔ tags = [] ∧ pieces = [] := by
  rw [ofParts?, Option.ite_none_right_eq_some, List.isEmpty_iff, Option.some.injEq, eq_comm (a := [])]

theorem ofParts?_text_eq_some_iff :
    ofParts? tags (.text cs :: parts) = some pieces ↔
      ∃ front tags' behind, ofMarks? tags (Mark.read 0 cs) = some (front, tags') ∧ ofParts? tags' parts = some behind ∧
        front ++ behind = pieces := by
  simp [ofParts?, Option.bind_eq_some_iff, Mark.read]

theorem ofParts?_slot_eq_some_iff :
    ofParts? tags (.slot s :: parts) = some pieces ↔
      ∃ behind, ofParts? tags parts = some behind ∧ .slot s :: behind = pieces := by
  simp [ofParts?, Option.bind_eq_some_iff]

/-- **A template makes a layout** if and only if its tags are nested and closed, wherever its slots stand. -/
theorem exists_ofParts?_iff :
    (∃ pieces, ofParts? tags parts = some pieces) ↔ Closes tags (parts.flatMap Part.marks) := by
  induction parts generalizing tags with
  | nil => simp [ofParts?_nil_eq_some_iff, closes_nil]
  | cons part parts ih =>
    rw [List.flatMap_cons]
    cases part with
    | slot s => simpa [ofParts?_slot_eq_some_iff, Part.marks] using ih
    | text cs =>
      rw [closes_append]
      simp only [ofParts?_text_eq_some_iff, ← ih]
      constructor
      · rintro ⟨pieces, front, tags', behind, hfront, hbehind, -⟩
        exact ⟨front, tags', hfront, behind, hbehind⟩
      · rintro ⟨front, tags', hfront, behind, hbehind⟩
        exact ⟨_, front, tags', behind, hfront, hbehind, rfl⟩

theorem ofParts?_shown (h : ofParts? tags parts = some pieces) :
    pieces.filter Piece.isShown = parts.flatMap Part.shown := by
  induction parts generalizing tags pieces with
  | nil =>
    obtain ⟨-, rfl⟩ := ofParts?_nil_eq_some_iff.1 h
    rfl
  | cons part parts ih =>
    cases part with
    | slot s =>
      obtain ⟨behind, hbehind, rfl⟩ := ofParts?_slot_eq_some_iff.1 h
      rw [List.filter_cons_of_pos rfl, ih hbehind]
      rfl
    | text cs =>
      obtain ⟨front, tags', behind, hfront, hbehind, rfl⟩ := ofParts?_text_eq_some_iff.1 h
      rw [List.filter_append, ofMarks?_shown hfront, ih hbehind]
      rfl

theorem ofParts?_coded (h : ofParts? tags parts = some pieces) (htags : ∀ tag ∈ tags, tag.2.IsCoded) :
    ∀ piece ∈ pieces, piece.IsCoded := by
  induction parts generalizing tags pieces with
  | nil =>
    obtain ⟨-, rfl⟩ := ofParts?_nil_eq_some_iff.1 h
    nofun
  | cons part parts ih =>
    cases part with
    | slot s =>
      obtain ⟨behind, hbehind, rfl⟩ := ofParts?_slot_eq_some_iff.1 h
      exact List.forall_mem_cons.2 ⟨trivial, ih hbehind htags⟩
    | text cs =>
      obtain ⟨front, tags', behind, hfront, hbehind, rfl⟩ := ofParts?_text_eq_some_iff.1 h
      obtain ⟨hcoded, htags'⟩ := ofMarks?_coded hfront htags
      exact List.forall_mem_append.2 ⟨hcoded, ih hbehind htags'⟩

end

/-! ## Lines -/

section

variable {piece : Piece} {rest pieces : List Piece} {coloured : Bool} {r : Record} {l l' : Layout}

theorem render?_cons (piece : Piece) (rest : List Piece) (coloured : Bool) (r : Record) :
    render? ⟨piece :: rest⟩ coloured r =
      (showPiece? coloured r piece).bind fun cs => (render? ⟨rest⟩ coloured r).map (cs ++ ·) := by
  simp only [render?, List.mapM_cons]
  cases showPiece? coloured r piece with
  | none => rfl
  | some cs => cases List.mapM (showPiece? coloured r) rest <;> rfl

theorem render?_filter_isShown (pieces : List Piece) (r : Record) :
    render? ⟨pieces.filter Piece.isShown⟩ false r = render? ⟨pieces⟩ false r := by
  induction pieces with
  | nil => rfl
  | cons piece rest ih =>
    rw [render?_cons]
    cases hshown : piece.isShown with
    | true => rw [List.filter_cons_of_pos hshown, render?_cons, ih]
    | false =>
      have hempty : showPiece? false r piece = some [] := by
        cases piece with
        | char c => cases hshown
        | slot s => cases hshown
        | colour c => rfl
        | reset remaining => rfl
      rw [List.filter_cons_of_neg (Bool.eq_false_iff.1 hshown), ih, hempty, Option.bind_some]
      exact Option.map_id'.symm

/-- **Without colours a line only depends on what is shown.** -/
theorem render?_eq_of_shown (h : l.pieces.filter Piece.isShown = l'.pieces.filter Piece.isShown) (r : Record) :
    l.render? false r = l'.render? false r := by
  rw [← render?_filter_isShown, h, render?_filter_isShown]

theorem showPiece?_tinted (h : piece.IsCoded) (r : Record) :
    Option.Rel Tinted (showPiece? false r piece) (showPiece? true r piece) := by
  cases piece with
  | char c => exact .some (Tinted.refl _)
  | colour c => exact .some (h.tinted r.level)
  | slot s =>
    change Option.Rel Tinted (s.fill? r slotDepth) (s.fill? r slotDepth)
    cases s.fill? r slotDepth with
    | none => exact .none
    | some cs => exact .some (Tinted.refl cs)
  | reset remaining =>
    have hremaining : Tinted [] (remaining.flatMap (Colour.sequences r.level)) := by
      induction remaining with
      | nil => exact .nil
      | cons c remaining ih =>
        obtain ⟨hc, hremaining⟩ := List.forall_mem_cons.1 h
        exact (hc.tinted r.level).append (ih hremaining)
    have hreset : Tinted [] Colour.reset := tinted_escape (by decide)
    exact .some (hreset.append hremaining)

theorem rel_render?_cons (hpiece : Option.Rel Tinted (showPiece? false r piece) (showPiece? true r piece))
    (hrest : Option.Rel Tinted (render? ⟨rest⟩ false r) (render? ⟨rest⟩ true r)) :
    Option.Rel Tinted (render? ⟨piece :: rest⟩ false r) (render? ⟨piece :: rest⟩ true r) := by
  rw [render?_cons, render?_cons]
  generalize showPiece? false r piece = front at hpiece ⊢
  generalize showPiece? true r piece = front' at hpiece ⊢
  generalize render? ⟨rest⟩ false r = behind at hrest ⊢
  generalize render? ⟨rest⟩ true r = behind' at hrest ⊢
  cases hpiece with
  | none => exact .none
  | some hfront =>
    cases hrest with
    | none => exact .none
    | some hbehind => exact .some (hfront.append hbehind)

/-- **A line in colours is the line without them**, with codes of colours put in. -/
theorem render?_tinted (h : ∀ piece ∈ l.pieces, piece.IsCoded) (r : Record) :
    Option.Rel Tinted (l.render? false r) (l.render? true r) := by
  obtain ⟨pieces⟩ := l
  induction pieces with
  | nil => exact .some .nil
  | cons piece rest ih =>
    obtain ⟨hpiece, hrest⟩ := List.forall_mem_cons.1 h
    exact rel_render?_cons (showPiece?_tinted hpiece r) (ih hrest)

end

end Layout

/-! ## Plain formats -/

/-- Whether plain tags can be dropped from a part without a change to what else is in it. -/
def Part.IsSeparable : Part → Prop
  | .text cs => Untangled cs
  | .slot s => s.IsBare

instance : ∀ part : Part, Decidable part.IsSeparable
  | .text cs => inferInstanceAs (Decidable (Untangled cs))
  | .slot s => inferInstanceAs (Decidable s.IsBare)

section

variable {cs : List Char} {part : Part}

theorem flatMap_shown_filter (marks : List Mark) :
    (marks.filter (!·.isPlain)).flatMap Mark.shown = marks.flatMap Mark.shown := by
  induction marks with
  | nil => rfl
  | cons m marks ih =>
    cases hplain : m.isPlain with
    | false => rw [List.filter_cons_of_pos (by simp [hplain]), List.flatMap_cons, List.flatMap_cons, ih]
    | true =>
      have hempty : m.shown = [] := by
        cases m with
        | char c => cases hplain
        | opening name => rfl
        | closing name => rfl
      rw [List.filter_cons_of_neg (by simp [hplain]), List.flatMap_cons, hempty, ih, List.nil_append]

theorem Part.isSound_succ_iff {depth : Nat} {parts : List Part} (h : Part.ofTemplate cs = .ok parts) :
    Part.isSound (depth + 1) cs = true ↔ ∀ s, .slot s ∈ parts → Part.isSound depth s.description = true := by
  rw [Part.isSound, Part.ofTemplate?, h]
  simp only [Except.toOption, List.all_eq_true]
  exact ⟨fun h s hs => h _ hs, fun | h, .text _, _ => rfl | h, .slot s, hs => h s hs⟩

theorem Part.flatMap_marks_ofRun (cs : List Char) : (Part.ofRun cs).flatMap Part.marks = Mark.read 0 cs := by
  cases cs with
  | nil => rfl
  | cons c cs => exact List.flatMap_singleton _ _

theorem Part.flatMap_shown_ofRun (cs : List Char) :
    (Part.ofRun cs).flatMap Part.shown = (Mark.read 0 cs).flatMap Mark.shown := by
  cases cs with
  | nil => rfl
  | cons c cs => exact List.flatMap_singleton _ _

theorem Part.IsSeparable.marks_untagged (h : part.IsSeparable) :
    part.untagged.flatMap Part.marks = part.marks.filter (!·.isPlain) := by
  cases part with
  | slot s => rfl
  | text cs => exact (Part.flatMap_marks_ofRun _).trans (Mark.read_untagged h 0 fun hzero => absurd rfl hzero)

theorem Part.IsSeparable.shown_untagged (h : part.IsSeparable) : part.untagged.flatMap Part.shown = part.shown := by
  cases part with
  | slot s => rfl
  | text cs =>
    have hread := Mark.read_untagged h 0 fun hzero => absurd rfl hzero
    rw [Part.untagged, Part.flatMap_shown_ofRun, hread, flatMap_shown_filter]
    rfl

end

namespace Layout

/-- The template of a format, for lines with their end. -/
def template (format : String) : List Char :=
  format.toList ++ "\n\x7bexception\x7d".toList

/-- The parts of the lines of a format. -/
def partsOf (format : String) : List Part :=
  (Part.ofTemplate? (template format)).getD []

section

variable {format : String} {l l' : Layout} {parts : List Part}

theorem template_plainFormat (format : String) : template (plainFormat format) = untagged (template format) := by
  have hend : untagged "\x7bexception\x7d".toList = "\x7bexception\x7d".toList := by decide
  have hparting := untagged_parting (c := '\n') (by decide) (by decide) format.toList "\x7bexception\x7d".toList
  rw [hend] at hparting
  rw [template, plainFormat, String.toList_ofList, ← String.length_toList]
  exact hparting.symm

theorem parse?_eq_some_iff :
    parse? format = some l ↔
      ∃ parts, Part.ofTemplate (template format) = .ok parts ∧
        (∀ s, .slot s ∈ parts → Part.isSound 2 s.description = true) ∧ ofParts? [] parts = some l.pieces := by
  have hparse : parse? format =
      if Part.isSound 3 (template format) then
        ((Part.ofTemplate? (template format)).bind (ofParts? [])).map Layout.mk
      else none := rfl
  obtain ⟨pieces⟩ := l
  rw [hparse]
  cases hparts : Part.ofTemplate (template format) with
  | error why => simp [Part.isSound, Part.ofTemplate?, hparts, Except.toOption]
  | ok parts =>
    rw [Option.ite_none_right_eq_some, Part.isSound_succ_iff hparts, Part.ofTemplate?, hparts]
    simp [Except.toOption]

/-- **The plain format of a layout** is one as well if and only if no plain tag is closed without its name, and then it
has the lines of the layout without colours. -/
theorem parse?_plainFormat (h : parse? format = some l) (hseparable : ∀ part ∈ partsOf format, part.IsSeparable) :
    ((∃ l', parse? (plainFormat format) = some l') ↔ Mark.Named ((partsOf format).flatMap Part.marks)) ∧
    ∀ l', parse? (plainFormat format) = some l' → ∀ r, l'.render? false r = l.render? false r := by
  obtain ⟨parts, hparts, hsound, hpieces⟩ := parse?_eq_some_iff.1 h
  have hof : partsOf format = parts := by
    rw [partsOf, Part.ofTemplate?, hparts]
    rfl
  rw [hof] at hseparable ⊢
  have hbare : ∀ s, .slot s ∈ parts → s.IsBare := fun s hs => hseparable _ hs
  have hparts' : Part.ofTemplate (template (plainFormat format)) = .ok (parts.flatMap Part.untagged) := by
    rw [template_plainFormat]
    exact Part.ofTemplate_eq_ok_iff.2 ((Part.ofTemplate_eq_ok_iff.1 hparts).untagged hbare)
  have hmarks : (parts.flatMap Part.untagged).flatMap Part.marks =
      (parts.flatMap Part.marks).filter (!·.isPlain) := by
    rw [List.flatMap_assoc, List.filter_flatMap]
    exact List.flatMap_congr fun part hpart => (hseparable part hpart).marks_untagged
  have hshown : (parts.flatMap Part.untagged).flatMap Part.shown = parts.flatMap Part.shown := by
    rw [List.flatMap_assoc]
    exact List.flatMap_congr fun part hpart => (hseparable part hpart).shown_untagged
  have hsound' : ∀ s, .slot s ∈ parts.flatMap Part.untagged → Part.isSound 2 s.description = true := by
    intro s hs
    refine hsound s ?_
    obtain ⟨part, hpart, hs⟩ := List.mem_flatMap.1 hs
    cases part with
    | slot s' =>
      obtain rfl : s = s' := by simpa [Part.untagged] using hs
      exact hpart
    | text cs =>
      rw [Part.untagged, Part.ofRun] at hs
      split at hs <;> simp at hs
  constructor
  · rw [← (exists_ofParts?_iff.1 ⟨_, hpieces⟩).filter_iff, ← hmarks, ← exists_ofParts?_iff]
    constructor
    · rintro ⟨l', hl'⟩
      obtain ⟨parts', hparts'', -, hpieces'⟩ := parse?_eq_some_iff.1 hl'
      cases hparts'.symm.trans hparts''
      exact ⟨_, hpieces'⟩
    · rintro ⟨pieces', hpieces'⟩
      exact ⟨⟨pieces'⟩, parse?_eq_some_iff.2 ⟨_, hparts', hsound', hpieces'⟩⟩
  · intro l' hl' r
    obtain ⟨parts', hparts'', -, hpieces'⟩ := parse?_eq_some_iff.1 hl'
    cases hparts'.symm.trans hparts''
    refine render?_eq_of_shown ?_ r
    rw [ofParts?_shown hpieces', ofParts?_shown hpieces, hshown]

end

end Layout

end Transplant.Log
