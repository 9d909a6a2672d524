import Mathlib.Data.List.Infix
import Transplant.Proofs.Log.Tag

/-!
# Marks

The characters and tags of a text, read one after the other (`Mark.read`), and what becomes of them where the plain tags
of the text are dropped. Only in texts that are untangled (`Untangled`) does this take away these tags and leave all other
marks as they are: behind a backslash a plain tag is text, or the backslash is text without it, and what stands around a
plain tag can be a tag when it is gone.

Main statement: `Mark.read_untagged`.
-/

namespace Transplant.Log

/-- Whether no plain tag of a text stands behind a backslash, and no tag comes into being where plain tags are dropped. -/
structure Untangled (cs : List Char) : Prop where
  unescaped : ∀ rest, '\\' :: rest <:+ cs → afterPlain? rest = none
  unjoined : ∀ rest, rest <:+ cs → Mark.readTag rest = none → Mark.readTag (untagged rest) = none

namespace Mark

/-- The mark of a tag. -/
def ofTag (isClosing : Bool) (name : List Char) : Mark :=
  if isClosing then .closing name else .opening name

/-- Whether a mark is a plain tag. -/
def isPlain : Mark → Bool
  | .char _ => false
  | .opening name | .closing name => isPlainName name

/-- The marks of a text behind some backslashes. -/
def read (slashes : Nat) (cs : List Char) : List Mark :=
  ofText (cs.length + 1) slashes cs

section

variable {cs rest name after : List Char} {c : Char} {isClosing : Bool} {fuel slashes : Nat}

@[simp]
theorem isPlain_ofTag : (ofTag isClosing name).isPlain = isPlainName name := by
  cases isClosing <;> rfl

/-! ## Reading -/

theorem ofText_char (hc : c ≠ '\\') (h : readTag (c :: rest) = none) :
    ofText (fuel + 1) slashes (c :: rest) =
      List.replicate slashes (.char '\\') ++ .char c :: ofText fuel 0 rest := by
  rw [ofText, if_neg (by simpa using hc), h]

theorem ofText_tag (h : readTag cs = some (isClosing, name, after)) :
    ofText (fuel + 1) slashes cs =
      List.replicate (slashes / 2) (.char '\\') ++
        (if slashes % 2 = 1 then (tagText isClosing name).map .char else [ofTag isClosing name]) ++
        ofText fuel 0 after := by
  obtain ⟨hcs, -⟩ := readTag_eq_some_iff.1 h
  have htake : cs.take (cs.length - after.length) = tagText isClosing name := by
    rw [hcs, List.length_append, Nat.add_sub_cancel, List.take_left]
  obtain ⟨tail, rfl⟩ : ∃ tail, cs = '<' :: tail := ⟨_, hcs⟩
  rw [ofText, if_neg (by decide), h]
  dsimp only
  rw [htake]
  simp [ofTag]

/-- A text is empty, or begins with a backslash, a tag, or another character. -/
@[elab_as_elim]
theorem read_induction {motive : List Char → Prop} (nil : motive [])
    (slash : ∀ rest, motive rest → motive ('\\' :: rest))
    (tag : ∀ cs isClosing name after, readTag cs = some (isClosing, name, after) → motive after → motive cs)
    (char : ∀ c rest, c ≠ '\\' → readTag (c :: rest) = none → motive rest → motive (c :: rest)) : ∀ cs, motive cs := by
  intro cs
  induction hlength : cs.length using Nat.strong_induction_on generalizing cs with
  | _ n ih =>
    cases cs with
    | nil => exact nil
    | cons c rest =>
      have hrest : motive rest := ih _ (by simp [← hlength]) rest rfl
      by_cases hc : c = '\\'
      · subst hc
        exact slash rest hrest
      cases htag : readTag (c :: rest) with
      | none => exact char c rest hc htag hrest
      | some read =>
        obtain ⟨isClosing, name, after⟩ := read
        exact tag _ isClosing name after htag (ih _ (hlength ▸ length_after_lt htag) after rfl)

/-- Each step takes a character, so that fuel for all of them and the end is enough. -/
theorem ofText_fuel {fuel' : Nat} (h : cs.length < fuel) (h' : cs.length < fuel') :
    ofText fuel slashes cs = ofText fuel' slashes cs := by
  induction cs using read_induction generalizing fuel fuel' slashes with
  | nil =>
    obtain ⟨fuel, rfl⟩ := Nat.exists_eq_add_one_of_ne_zero (Nat.ne_zero_of_lt h)
    obtain ⟨fuel', rfl⟩ := Nat.exists_eq_add_one_of_ne_zero (Nat.ne_zero_of_lt h')
    rfl
  | slash rest ih =>
    obtain ⟨fuel, rfl⟩ := Nat.exists_eq_add_one_of_ne_zero (Nat.ne_zero_of_lt h)
    obtain ⟨fuel', rfl⟩ := Nat.exists_eq_add_one_of_ne_zero (Nat.ne_zero_of_lt h')
    exact ih (by simpa using h) (by simpa using h')
  | tag cs isClosing name after htag ih =>
    obtain ⟨fuel, rfl⟩ := Nat.exists_eq_add_one_of_ne_zero (Nat.ne_zero_of_lt h)
    obtain ⟨fuel', rfl⟩ := Nat.exists_eq_add_one_of_ne_zero (Nat.ne_zero_of_lt h')
    have hlt := length_after_lt htag
    have hafter : ofText fuel 0 after = ofText fuel' 0 after := ih (by omega) (by omega)
    rw [ofText_tag htag, ofText_tag htag, hafter]
  | char c rest hc htag ih =>
    obtain ⟨fuel, rfl⟩ := Nat.exists_eq_add_one_of_ne_zero (Nat.ne_zero_of_lt h)
    obtain ⟨fuel', rfl⟩ := Nat.exists_eq_add_one_of_ne_zero (Nat.ne_zero_of_lt h')
    have hrest : ofText fuel 0 rest = ofText fuel' 0 rest := ih (by simpa using h) (by simpa using h')
    rw [ofText_char hc htag, ofText_char hc htag, hrest]

theorem ofText_eq (h : cs.length < fuel) : ofText fuel slashes cs = read slashes cs :=
  ofText_fuel h (Nat.lt_succ_self _)

theorem read_slash : read slashes ('\\' :: rest) = read (slashes + 1) rest :=
  rfl

theorem read_char (hc : c ≠ '\\') (h : readTag (c :: rest) = none) :
    read slashes (c :: rest) = List.replicate slashes (.char '\\') ++ .char c :: read 0 rest :=
  ofText_char hc h

theorem read_tag (h : readTag cs = some (isClosing, name, after)) :
    read slashes cs =
      List.replicate (slashes / 2) (.char '\\') ++
        (if slashes % 2 = 1 then (tagText isClosing name).map .char else [ofTag isClosing name]) ++ read 0 after := by
  rw [read, ofText_tag h, ofText_eq (length_after_lt h)]

end

end Mark

/-! ## Without plain tags -/

section

variable {cs rest : List Char}

theorem Untangled.suffix (h : Untangled cs) (hrest : rest <:+ cs) : Untangled rest :=
  ⟨fun _ hsuffix => h.unescaped _ (hsuffix.trans hrest), fun _ hsuffix => h.unjoined _ (hsuffix.trans hrest)⟩

instance (cs : List Char) : Decidable (Untangled cs) :=
  decidable_of_iff
    (∀ rest ∈ cs.tails, (rest.head? = some '\\' → afterPlain? rest.tail = none) ∧
      (Mark.readTag rest = none → Mark.readTag (untagged rest) = none))
    (by
      simp only [List.mem_tails]
      refine ⟨fun h => ⟨fun rest hrest => (h _ hrest).1 rfl, fun rest hrest => (h _ hrest).2⟩, fun h rest hrest => ?_⟩
      refine ⟨fun hslash => ?_, h.unjoined rest hrest⟩
      obtain ⟨rest, rfl⟩ := List.head?_eq_some_iff.1 hslash
      exact h.unescaped rest hrest)

/-- **Without its plain tags an untangled text has all of its other marks.** -/
theorem Mark.read_untagged (h : Untangled cs) :
    ∀ slashes, (slashes ≠ 0 → afterPlain? cs = none) →
      Mark.read slashes (untagged cs) = (Mark.read slashes cs).filter (!·.isPlain) := by
  -- text is never dropped, be it escaped or not
  have hchars : ∀ {text : List Mark}, (∀ m ∈ text, ∃ c, m = .char c) → text.filter (!·.isPlain) = text := by
    intro text htext
    refine List.filter_eq_self.2 fun m hm => ?_
    obtain ⟨c, rfl⟩ := htext m hm
    rfl
  have hslashes : ∀ n, (List.replicate n (Mark.char '\\')).filter (!·.isPlain) = List.replicate n (Mark.char '\\') :=
    fun n => hchars fun m hm => ⟨_, List.eq_of_mem_replicate hm⟩
  induction cs using Mark.read_induction with
  | nil => exact fun slashes _ => (hslashes slashes).symm
  | slash rest ih =>
    intro slashes _
    have hunescaped := h.unescaped rest List.suffix_rfl
    rw [untagged_cons (afterPlain?_of_ne (by decide) rest), Mark.read_slash, Mark.read_slash]
    exact ih (h.suffix (List.suffix_cons _ _)) _ fun _ => hunescaped
  | tag cs isClosing name after htag ih =>
    intro slashes hfront
    obtain ⟨hcs, hvalid⟩ := Mark.readTag_eq_some_iff.1 htag
    have hafter := ih (h.suffix ⟨_, hcs.symm⟩) 0 fun hzero => absurd rfl hzero
    by_cases hname : isPlainName name = true
    · have hplain : afterPlain? cs = some after := afterPlain?_eq_some_iff.2 ⟨isClosing, name, hname, hcs⟩
      obtain rfl : slashes = 0 := Decidable.not_not.1 fun hne => by simp [hfront hne] at hplain
      rw [untagged_of_plain hplain, Mark.read_tag htag, hafter]
      simp [hname]
    · rw [Bool.not_eq_true] at hname
      have hkept := Mark.readTag_tagText hvalid (untagged after)
      rw [hcs, untagged_tagText hvalid hname, ← hcs, Mark.read_tag hkept, Mark.read_tag htag, hafter,
        List.filter_append, List.filter_append, hslashes]
      congr 2
      split
      · refine (hchars fun m hm => ?_).symm
        obtain ⟨c, -, rfl⟩ := List.mem_map.1 hm
        exact ⟨c, rfl⟩
      · simp [hname]
  | char c rest hc htag ih =>
    intro slashes _
    have hplain : afterPlain? (c :: rest) = none := by
      rw [afterPlain?, htag]
      rfl
    have hunjoined := h.unjoined _ List.suffix_rfl htag
    rw [untagged_cons hplain] at hunjoined ⊢
    rw [Mark.read_char hc hunjoined, Mark.read_char hc htag, List.filter_append, hslashes, List.filter_cons_of_pos rfl,
      ih (h.suffix (List.suffix_cons _ _)) 0 fun hzero => absurd rfl hzero]

end

end Transplant.Log
