import Transplant.Log.Layout
import Transplant.Proofs.Text.Trim

/-!
# Tags

A tag is read where one is written (`Mark.readTag_eq_some_iff`), and there is none within another one. The plain tags are
those of small letters only; `untagged` is a text without them, which is found step by step (`untagged_induction`).
-/

namespace Transplant.Log.Mark

/-! ## Names -/

/-- Whether a blank stands behind `fg` or `bg` at the start of a text. -/
def Placed (cs : List Char) : Prop :=
  ∃ a c rest, cs = a :: 'g' :: c :: rest ∧ (a = 'f' ∨ a = 'b') ∧ Text.isBlank c = true

/-- A name that a tag can have. -/
inductive IsName : List Char → Prop where
  | bare {name : List Char} (h : ∀ c ∈ name, isNameChar c = true) : IsName name
  | placed {a c : Char} {run : List Char} (ha : a = 'f' ∨ a = 'b') (hc : Text.isBlank c = true)
    (h : ∀ c ∈ run, isNameChar c = true) : IsName (a :: 'g' :: c :: run)

/-- Reads the characters of a name up to `>`. -/
def readRun (cs : List Char) : Option (List Char × List Char) :=
  match cs.dropWhile isNameChar with
  | '>' :: after => some (cs.takeWhile isNameChar, after)
  | _ => none

section

variable {cs rest name run after : List Char} {a c : Char}

theorem isNameChar_iff : isNameChar c = true ↔ c ≠ '<' ∧ c ≠ '>' ∧ Text.isBlank c = false := by
  simp [isNameChar, and_assoc]

theorem readRun_eq_some_iff :
    readRun cs = some (run, after) ↔ cs = run ++ '>' :: after ∧ ∀ c ∈ run, isNameChar c = true := by
  constructor
  · intro h
    unfold readRun at h
    split at h
    · rename_i heq
      obtain ⟨rfl, rfl⟩ := Prod.mk.inj (Option.some.inj h)
      refine ⟨?_, fun c hc => List.mem_takeWhile_imp hc⟩
      rw [← heq, List.takeWhile_append_dropWhile]
    · cases h
  · rintro ⟨rfl, hrun⟩
    have hend : isNameChar '>' = false := by decide
    rw [readRun, List.dropWhile_append_of_pos hrun, List.takeWhile_append_of_pos hrun,
      List.dropWhile_cons_of_neg (by simp [hend]), List.takeWhile_cons_of_neg (by simp [hend]), List.append_nil]
    rfl

theorem readName_of_placed (ha : a = 'f' ∨ a = 'b') (hc : Text.isBlank c = true) (rest : List Char) :
    readName (a :: 'g' :: c :: rest) = (readRun rest).map (Prod.map ([a, 'g', c] ++ ·) id) := by
  have hplace : ((a == 'f' || a == 'b') && Text.isBlank c) = true := by simpa [hc] using ha
  unfold readName readRun
  simp only [hplace, if_true, List.take_succ_cons, List.take_zero, List.length_cons, List.length_nil,
    List.drop_succ_cons, List.drop_zero, Text.drop_takeWhile]
  cases rest.dropWhile isNameChar with
  | nil => rfl
  | cons d after => by_cases hd : d = '>' <;> simp [hd]

theorem readName_of_not_placed (h : ¬ Placed cs) : readName cs = readRun cs := by
  unfold readName
  split
  · rename_i a c rest
    have hplace : ((a == 'f' || a == 'b') && Text.isBlank c) = false := by
      rw [Bool.eq_false_iff]
      intro hplaced
      simp only [Bool.and_eq_true, Bool.or_eq_true, beq_iff_eq] at hplaced
      exact h ⟨a, c, rest, rfl, hplaced⟩
    simp only [hplace, Bool.false_eq_true, if_false, List.length_nil, List.drop_zero, Text.drop_takeWhile,
      List.nil_append]
    rfl
  · simp only [List.length_nil, List.drop_zero, Text.drop_takeWhile, List.nil_append]
    rfl

theorem not_placed_of_bare (h : ∀ c ∈ name, isNameChar c = true) (after : List Char) :
    ¬ Placed (name ++ '>' :: after) := by
  rintro ⟨a, c, rest, heq, ha, hc⟩
  match name with
  | [] => rcases ha with rfl | rfl <;> simp at heq
  | [x] => simp at heq
  | [x, y] =>
    simp only [List.cons_append, List.nil_append, List.cons.injEq] at heq
    obtain ⟨-, -, rfl, -⟩ := heq
    exact absurd hc (by decide)
  | x :: y :: z :: name =>
    simp only [List.cons_append, List.cons.injEq] at heq
    obtain ⟨-, -, rfl, -⟩ := heq
    have hz := (isNameChar_iff.1 (h z (by simp))).2.2
    rw [hz] at hc
    cases hc

theorem readName_eq_some_iff : readName cs = some (name, after) ↔ cs = name ++ '>' :: after ∧ IsName name := by
  by_cases hplaced : Placed cs
  · obtain ⟨a, c, rest, rfl, ha, hc⟩ := hplaced
    rw [readName_of_placed ha hc, Option.map_eq_some_iff]
    constructor
    · rintro ⟨⟨run, after'⟩, hrun, heq⟩
      obtain ⟨rfl, rfl⟩ := Prod.mk.inj heq
      obtain ⟨rfl, hchars⟩ := readRun_eq_some_iff.1 hrun
      exact ⟨rfl, .placed ha hc hchars⟩
    · rintro ⟨heq, hname⟩
      cases hname with
      | bare h => exact absurd ⟨a, c, rest, heq.symm, ha, hc⟩ (not_placed_of_bare h after)
      | placed _ _ h =>
        simp only [List.cons_append, List.cons.injEq, true_and] at heq
        obtain ⟨rfl, rfl, rfl⟩ := heq
        exact ⟨_, readRun_eq_some_iff.2 ⟨rfl, h⟩, rfl⟩
  · rw [readName_of_not_placed hplaced, readRun_eq_some_iff]
    refine and_congr_right fun hcs => ⟨.bare, fun hname => ?_⟩
    cases hname with
    | bare h => exact h
    | placed ha hc h => exact absurd ⟨_, _, _, hcs, ha, hc⟩ hplaced

/-! ## Tags -/

/-- A tag as it is written. -/
def tagText (isClosing : Bool) (name : List Char) : List Char :=
  '<' :: ((if isClosing then ['/'] else []) ++ name ++ ['>'])

/-- Whether a name makes a tag; an opening one does not look like a closing one. -/
def IsTag (isClosing : Bool) (name : List Char) : Prop :=
  IsName name ∧ (isClosing = false → name.head? ≠ some '/')

theorem readTag_of_ne (hc : c ≠ '<') (rest : List Char) : readTag (c :: rest) = none := by
  unfold readTag
  split
  · rename_i heq
    exact absurd (List.cons.inj heq).1 hc
  · rename_i heq
    exact absurd (List.cons.inj heq).1 hc
  · rfl

theorem readTag_opening (h : rest.head? ≠ some '/') :
    readTag ('<' :: rest) = (readName rest).map fun (name, after) => (false, name, after) := by
  cases rest with
  | nil => rfl
  | cons c rest =>
    have hc : c ≠ '/' := fun heq => h (congrArg some heq)
    unfold readTag
    split
    · rename_i heq
      cases heq
      exact absurd rfl hc
    · rename_i heq
      cases heq
      rfl
    · rename_i hopen
      exact absurd rfl (hopen _)

variable {isClosing : Bool}

/-- **A tag is read where one is written.** -/
theorem readTag_eq_some_iff :
    readTag cs = some (isClosing, name, after) ↔ cs = tagText isClosing name ++ after ∧ IsTag isClosing name := by
  cases cs with
  | nil => simp [readTag, tagText]
  | cons c rest =>
    by_cases hc : c = '<'
    · subst hc
      by_cases hslash : rest.head? = some '/'
      · obtain ⟨rest, rfl⟩ : ∃ rest', rest = '/' :: rest' := List.head?_eq_some_iff.1 hslash
        change (readName rest).map _ = _ ↔ _
        cases isClosing with
        | true => simp [readName_eq_some_iff, tagText, IsTag]
        | false =>
          -- an opening tag with this text would have a name that starts with a slash
          refine iff_of_false (by simp) ?_
          rintro ⟨heq, -, hhead⟩
          cases name with
          | nil => simp [tagText] at heq
          | cons x name =>
            simp only [tagText, Bool.false_eq_true, if_false, List.nil_append, List.cons_append, List.cons.injEq,
              true_and] at heq
            exact hhead rfl (congrArg some heq.1.symm)
      · rw [readTag_opening hslash]
        cases isClosing with
        | true =>
          refine iff_of_false (by simp) ?_
          rintro ⟨heq, -⟩
          simp only [tagText, if_true, List.cons_append, List.nil_append, List.cons.injEq, true_and] at heq
          exact hslash (by rw [heq, List.head?_cons])
        | false =>
          have hname : rest = name ++ '>' :: after → name.head? ≠ some '/' := by
            rintro rfl hhead
            obtain ⟨name, rfl⟩ := List.head?_eq_some_iff.1 hhead
            exact hslash rfl
          simp only [Option.map_eq_some_iff, Prod.exists, Prod.mk.injEq, readName_eq_some_iff, tagText, IsTag]
          constructor
          · rintro ⟨_, _, ⟨hrest, hname'⟩, -, rfl, rfl⟩
            exact ⟨by simp [hrest], hname', fun _ => hname hrest⟩
          · rintro ⟨heq, hname', -⟩
            exact ⟨name, after, ⟨by simpa using heq, hname'⟩, trivial, rfl, rfl⟩
    · rw [readTag_of_ne hc]
      simp [tagText, hc]

theorem readTag_tagText (h : IsTag isClosing name) (after : List Char) :
    readTag (tagText isClosing name ++ after) = some (isClosing, name, after) :=
  readTag_eq_some_iff.2 ⟨rfl, h⟩

theorem length_tagText (isClosing : Bool) (name : List Char) : 2 ≤ (tagText isClosing name).length := by
  simp only [tagText, List.length_cons, List.length_append]
  omega

theorem length_after_lt (h : readTag cs = some (isClosing, name, after)) : after.length < cs.length := by
  obtain ⟨rfl, -⟩ := readTag_eq_some_iff.1 h
  have htag := length_tagText isClosing name
  rw [List.length_append]
  omega

theorem IsName.ne_of_mem (h : IsName name) (hc : c ∈ name) : c ≠ '<' := by
  rintro rfl
  cases h with
  | bare h => exact (isNameChar_iff.1 (h _ hc)).1 rfl
  | placed ha hblank h =>
    rcases List.mem_cons.1 hc with rfl | hc
    · simp at ha
    rcases List.mem_cons.1 hc with hc | hc
    · cases hc
    rcases List.mem_cons.1 hc with rfl | hc
    · exact absurd hblank (by decide)
    · exact (isNameChar_iff.1 (h _ hc)).1 rfl

/-- There is no further tag in a tag. -/
theorem IsTag.ne_of_mem_tail (h : IsTag isClosing name) (hc : c ∈ (tagText isClosing name).tail) : c ≠ '<' := by
  rcases List.mem_append.1 hc with hc | hc
  · rcases List.mem_append.1 hc with hc | hc
    · rintro rfl
      split at hc <;> simp at hc
    · exact h.1.ne_of_mem hc
  · rintro rfl
    simp at hc

end

end Transplant.Log.Mark

namespace Transplant.Log

/-! ## Plain tags -/

/-- Whether a name has small letters only. -/
def isPlainName (name : List Char) : Bool :=
  !name.isEmpty && name.all isSmallLetter

/-- What stands behind a plain tag with which a text begins. -/
def afterPlain? (cs : List Char) : Option (List Char) :=
  (Mark.readTag cs).bind fun (_, name, after) => if isPlainName name then some after else none

/-- A text without its plain tags. -/
def untagged (cs : List Char) : List Char :=
  dropPlainTags cs.length cs

section

variable {cs rest name after : List Char} {c : Char} {isClosing : Bool} {fuel : Nat}

theorem isPlainName_iff : isPlainName name = true ↔ name ≠ [] ∧ ∀ c ∈ name, isSmallLetter c = true := by
  simp [isPlainName]

theorem isNameChar_of_isSmallLetter (h : isSmallLetter c = true) : Mark.isNameChar c = true := by
  simp only [isSmallLetter, Bool.and_eq_true, decide_eq_true_eq, Char.le_def, UInt32.le_iff_toNat_le] at h
  have hlow : 97 ≤ c.toNat := h.1
  have hhigh : c.toNat ≤ 122 := h.2
  have hne : ∀ d : Char, c = d → 97 ≤ d.toNat := fun d heq => heq ▸ hlow
  refine Mark.isNameChar_iff.2
    ⟨fun heq => absurd (hne _ heq) (by decide), fun heq => absurd (hne _ heq) (by decide), ?_⟩
  simp [Text.isBlank]
  omega

theorem isTag_of_isPlainName (h : isPlainName name = true) : Mark.IsTag isClosing name := by
  obtain ⟨hne, hsmall⟩ := isPlainName_iff.1 h
  refine ⟨.bare fun c hc => isNameChar_of_isSmallLetter (hsmall c hc), fun _ hslash => ?_⟩
  obtain ⟨name, rfl⟩ := List.head?_eq_some_iff.1 hslash
  exact absurd (hsmall '/' List.mem_cons_self) (by decide)

theorem afterPlain?_eq_some_iff :
    afterPlain? cs = some after ↔
      ∃ isClosing name, isPlainName name = true ∧ cs = Mark.tagText isClosing name ++ after := by
  rw [afterPlain?, Option.bind_eq_some_iff]
  constructor
  · rintro ⟨⟨isClosing, name, after'⟩, hread, hplain⟩
    dsimp only at hplain
    by_cases hname : isPlainName name = true
    · rw [if_pos hname, Option.some.injEq] at hplain
      subst hplain
      exact ⟨isClosing, name, hname, (Mark.readTag_eq_some_iff.1 hread).1⟩
    · rw [if_neg hname] at hplain
      cases hplain
  · rintro ⟨isClosing, name, hname, rfl⟩
    exact ⟨_, Mark.readTag_tagText (isTag_of_isPlainName hname) after, if_pos hname⟩

/-- What stands behind the `<` of a tag, or the `</` of a closing one. -/
def body (rest : List Char) : List Char :=
  if rest.head? == some '/' then rest.tail else rest

theorem append_body (rest : List Char) : (if rest.head? = some '/' then ['/'] else []) ++ body rest = rest := by
  unfold body
  cases rest with
  | nil => rfl
  | cons c rest => by_cases hc : c = '/' <;> simp [hc]

theorem body_of_tag (hname : isPlainName name = true) (after : List Char) :
    body ((if isClosing then ['/'] else []) ++ name ++ '>' :: after) = name ++ '>' :: after := by
  obtain ⟨c, run, rfl⟩ := List.exists_cons_of_ne_nil (isPlainName_iff.1 hname).1
  have htag : Mark.IsTag false (c :: run) := isTag_of_isPlainName hname
  have hc : c ≠ '/' := fun heq => htag.2 rfl (congrArg some heq)
  cases isClosing <;> simp [body, hc]

theorem dropPlainTags_cons (fuel : Nat) (c : Char) (rest : List Char) :
    dropPlainTags (fuel + 1) (c :: rest) =
      (afterPlain? (c :: rest)).elim (c :: dropPlainTags fuel rest) (dropPlainTags fuel) := by
  rw [dropPlainTags.eq_def]
  dsimp only
  rw [Text.drop_takeWhile, ← body]
  cases hplain : afterPlain? (c :: rest) with
  | some after =>
    obtain ⟨isClosing, name, hname, heq⟩ := afterPlain?_eq_some_iff.1 hplain
    obtain ⟨hne, hsmall⟩ := isPlainName_iff.1 hname
    have hrest : rest = (if isClosing then ['/'] else []) ++ name ++ '>' :: after := by
      simpa [Mark.tagText] using (List.cons.inj heq).2
    obtain ⟨first, run, rfl⟩ := List.exists_cons_of_ne_nil hne
    rw [(List.cons.inj heq).1, hrest, body_of_tag hname, List.takeWhile_append_of_pos hsmall,
      List.dropWhile_append_of_pos hsmall]
    rfl
  | none =>
    split
    · rename_i after hempty hafter
      -- what the other reading takes for a tag is one
      have hsome : afterPlain? ('<' :: rest) = some after := by
        refine afterPlain?_eq_some_iff.2 ⟨rest.head? == some '/', (body rest).takeWhile isSmallLetter, ?_, ?_⟩
        · exact isPlainName_iff.2 ⟨by simpa using hempty, fun c hc => List.mem_takeWhile_imp hc⟩
        · have hbody := List.takeWhile_append_dropWhile (p := isSmallLetter) (l := body rest)
          rw [hafter] at hbody
          simp [Mark.tagText, hbody, append_body]
      rw [hsome] at hplain
      cases hplain
    · rfl

theorem length_afterPlain_lt (h : afterPlain? cs = some after) : after.length < cs.length := by
  obtain ⟨isClosing, name, -, rfl⟩ := afterPlain?_eq_some_iff.1 h
  have htag := Mark.length_tagText isClosing name
  rw [List.length_append]
  omega

/-- Each step takes a character, so that fuel for all of them is enough. -/
theorem dropPlainTags_eq (h : cs.length ≤ fuel) : dropPlainTags fuel cs = untagged cs := by
  have hsame : ∀ {fuel fuel' : Nat} {cs : List Char}, cs.length ≤ fuel → cs.length ≤ fuel' →
      dropPlainTags fuel cs = dropPlainTags fuel' cs := by
    intro fuel
    induction fuel with
    | zero =>
      intro fuel' cs h _
      obtain rfl := List.eq_nil_of_length_eq_zero (Nat.le_zero.1 h)
      cases fuel' <;> rfl
    | succ fuel ih =>
      intro fuel' cs h h'
      cases cs with
      | nil => cases fuel' <;> rfl
      | cons c rest =>
        obtain ⟨fuel', rfl⟩ : ∃ n, fuel' = n + 1 := ⟨fuel' - 1, by simp at h'; omega⟩
        rw [dropPlainTags_cons, dropPlainTags_cons]
        simp only [List.length_cons, Nat.add_le_add_iff_right] at h h'
        cases hplain : afterPlain? (c :: rest) with
        | some after =>
          have hlt := length_afterPlain_lt hplain
          rw [List.length_cons] at hlt
          exact ih (by omega) (by omega)
        | none => exact congrArg (c :: ·) (ih h h')
  exact hsame h (Nat.le_refl _)

@[simp]
theorem untagged_nil : untagged [] = [] := rfl

theorem untagged_of_plain (h : afterPlain? cs = some after) : untagged cs = untagged after := by
  have hlt := length_afterPlain_lt h
  obtain ⟨c, rest, rfl⟩ := List.exists_cons_of_length_pos (Nat.zero_lt_of_lt hlt)
  rw [List.length_cons] at hlt
  have hstep := dropPlainTags_cons rest.length c rest
  rw [h] at hstep
  rw [untagged, List.length_cons, hstep]
  exact dropPlainTags_eq (by omega)

theorem untagged_cons (h : afterPlain? (c :: rest) = none) : untagged (c :: rest) = c :: untagged rest := by
  have hstep := dropPlainTags_cons rest.length c rest
  rw [h] at hstep
  exact hstep

/-- A text is empty, begins with a plain tag, or with a character that begins none. -/
@[elab_as_elim]
theorem untagged_induction {motive : List Char → Prop} (nil : motive [])
    (tag : ∀ cs after, afterPlain? cs = some after → motive after → motive cs)
    (char : ∀ c rest, afterPlain? (c :: rest) = none → motive rest → motive (c :: rest)) : ∀ cs, motive cs := by
  intro cs
  induction hlength : cs.length using Nat.strong_induction_on generalizing cs with
  | _ n ih =>
    cases cs with
    | nil => exact nil
    | cons c rest =>
      cases hplain : afterPlain? (c :: rest) with
      | some after => exact tag _ after hplain (ih _ (hlength ▸ length_afterPlain_lt hplain) after rfl)
      | none => exact char c rest hplain (ih _ (by simp [← hlength]) rest rfl)

theorem afterPlain?_of_ne (hc : c ≠ '<') (rest : List Char) : afterPlain? (c :: rest) = none := by
  rw [afterPlain?, Mark.readTag_of_ne hc]
  rfl

theorem untagged_append_of_ne (h : ∀ c ∈ rest, c ≠ '<') (after : List Char) :
    untagged (rest ++ after) = rest ++ untagged after := by
  induction rest with
  | nil => rfl
  | cons c rest ih =>
    rw [List.cons_append, untagged_cons (afterPlain?_of_ne (h c List.mem_cons_self) _),
      ih fun d hd => h d (List.mem_cons_of_mem _ hd)]
    rfl

/-- Tags that are not plain stay. -/
theorem untagged_tagText (htag : Mark.IsTag isClosing name) (hname : isPlainName name = false) (after : List Char) :
    untagged (Mark.tagText isClosing name ++ after) = Mark.tagText isClosing name ++ untagged after := by
  have hnone : afterPlain? (Mark.tagText isClosing name ++ after) = none := by
    rw [afterPlain?, Mark.readTag_tagText htag]
    simp [hname]
  exact (untagged_cons hnone).trans (congrArg ('<' :: ·) (untagged_append_of_ne (fun _ => htag.ne_of_mem_tail) after))

end

end Transplant.Log
