import Mathlib.Data.List.Infix
import Transplant.Proofs.Text.Trim
import Transplant.Terminal.Markup

/-!
# What becomes of a run of text

A run of text is shown with its escaped brackets as brackets and with pictures for their codes. The first makes it
shorter and the second no longer, so a run is shown as it is just when it has no escaped bracket and no code is
replaced in it by something else (`shown_eq_self_iff`).
-/

namespace Transplant.Terminal

variable {cs name pics : List Char} {c : Char} {fuel : Nat}

/-! ## Pictures -/

/-- Whether a text begins with a name and the colon behind it. -/
structure Named (cs name after : List Char) : Prop where
  split : cs = name ++ ':' :: after
  plain : ∀ x ∈ name, x ≠ ':' ∧ Text.isBlank x = false

theorem Named.takeWhile_eq {after : List Char} (h : Named cs name after) :
    cs.takeWhile (fun x => x != ':' && !Text.isBlank x) = name := by
  rw [h.split, List.takeWhile_append_of_pos fun x hx => by simpa using h.plain x hx]
  simp

/-- A text begins with a name between colons, or its first character is passed over. -/
theorem named_or_other (c : Char) (cs : List Char) :
    (c = ':' ∧ ∃ name after, Named cs name after) ∨ (c ≠ ':' ∨ ∀ name after, ¬Named cs name after) := by
  by_cases hc : c = ':'
  · by_cases hnamed : ∃ name after, Named cs name after
    · exact Or.inl ⟨hc, hnamed⟩
    · exact Or.inr (Or.inr fun name after h => hnamed ⟨name, after, h⟩)
  · exact Or.inr (Or.inl hc)

section

variable [Lexicon]

/-- A code is not shorter than the picture with its variant. -/
theorem length_code?_le (h : code? name = some pics) : pics.length ≤ name.length + 2 := by
  rw [code?] at h
  split at h
  · rename_i suffix mark hfind
    have hsuffix := List.find?_some hfind
    have hlength : suffix.toList.length ≤ name.length := (List.isSuffixOf_iff_suffix.1 hsuffix).length_le
    have hlong : ∀ v ∈ variants, 1 < v.1.toList.length := by decide
    have hone : 1 < suffix.toList.length := hlong _ (List.mem_of_find?_eq_some hfind)
    obtain ⟨picture, hpicture, rfl⟩ := Option.map_eq_some_iff.1 h
    have hle := Lexicon.length_picture_le _ _ hpicture
    simp only [List.length_take, List.length_append, List.length_singleton, ← String.length_toList] at hle ⊢
    omega
  · exact Lexicon.length_picture_le _ _ h

theorem replaceCodes_named {after : List Char} (h : Named cs name after) :
    replaceCodes (fuel + 1) (':' :: cs) = (code? name).getD (':' :: name ++ [':']) ++ replaceCodes fuel after := by
  rw [replaceCodes.eq_def]
  dsimp only
  rw [h.takeWhile_eq, h.split, List.drop_left]
  rfl

theorem replaceCodes_other (h : c ≠ ':' ∨ ∀ name after, ¬Named cs name after) :
    replaceCodes (fuel + 1) (c :: cs) = c :: replaceCodes fuel cs := by
  rw [replaceCodes.eq_def]
  dsimp only
  split
  · rename_i after hdrop
    rw [Text.drop_takeWhile] at hdrop
    have hsplit := List.takeWhile_append_dropWhile (p := fun x => x != ':' && !Text.isBlank x) (l := cs)
    rw [hdrop] at hsplit
    have hnamed : Named cs (cs.takeWhile fun x => x != ':' && !Text.isBlank x) after :=
      ⟨hsplit.symm, fun x hx => by simpa using List.mem_takeWhile_imp hx⟩
    rcases h with hne | hnone
    · exact absurd rfl hne
    · exact absurd hnamed (hnone _ _)
  · rfl

theorem length_replaceCodes_le (fuel : Nat) (cs : List Char) : (replaceCodes fuel cs).length ≤ cs.length := by
  induction fuel generalizing cs with
  | zero => exact Nat.le_refl _
  | succ fuel ih =>
    cases cs with
    | nil => exact Nat.le_refl _
    | cons c cs =>
      rcases named_or_other c cs with ⟨rfl, name, after, h⟩ | h
      · have hafter := ih after
        have hsplit := congrArg List.length h.split
        rw [replaceCodes_named h]
        cases hcode : code? name with
        | none =>
          simp only [Option.getD_none, List.length_append, List.length_cons, List.length_nil] at hsplit ⊢
          omega
        | some pics =>
          have hpics := length_code?_le hcode
          simp only [Option.getD_some, List.length_append, List.length_cons] at hsplit ⊢
          omega
      · have hrest := ih cs
        rw [replaceCodes_other h, List.length_cons, List.length_cons]
        omega

/-- Whether a text has a code. -/
def HasCode (cs : List Char) : Prop :=
  ∃ name pics, code? name = some pics ∧ (':' :: name ++ [':']) <:+: cs

theorem replaceCodes_of_not_hasCode (h : ¬HasCode cs) : replaceCodes fuel cs = cs := by
  induction fuel generalizing cs with
  | zero => rfl
  | succ fuel ih =>
    cases cs with
    | nil => rfl
    | cons c cs =>
      have hpart {part : List Char} (hpart : part <:+: c :: cs) : ¬HasCode part := by
        rintro ⟨name, pics, hcode, hin⟩
        exact h ⟨name, pics, hcode, hin.trans hpart⟩
      rcases named_or_other c cs with ⟨rfl, name, after, hnamed⟩ | hother
      · have hsplit := hnamed.split
        subst hsplit
        rw [replaceCodes_named hnamed]
        cases hcode : code? name with
        | none =>
          rw [Option.getD_none, ih (hpart ⟨':' :: name ++ [':'], [], by simp⟩)]
          simp
        | some pics => exact absurd ⟨name, pics, hcode, [], after, by simp⟩ h
      · rw [replaceCodes_other hother, ih (hpart (List.suffix_cons c cs).isInfix)]

/-- A backslash at the end of a text belongs to no code. -/
theorem replaceCodes_concat_slash (hfuel : cs.length ≤ fuel) :
    replaceCodes (fuel + 1) (cs ++ ['\\']) = replaceCodes fuel cs ++ ['\\'] := by
  induction fuel generalizing cs with
  | zero =>
    have hnil : cs = [] := List.eq_nil_of_length_eq_zero (by omega)
    subst hnil
    rfl
  | succ fuel ih =>
    cases cs with
    | nil => rfl
    | cons c cs =>
      rw [List.length_cons] at hfuel
      rcases named_or_other c cs with ⟨rfl, name, after, hnamed⟩ | hother
      · have hbehind : Named (cs ++ ['\\']) name (after ++ ['\\']) :=
          ⟨by rw [hnamed.split, List.append_assoc, List.cons_append], hnamed.plain⟩
        have hlength := congrArg List.length hnamed.split
        simp only [List.length_append, List.length_cons] at hlength
        rw [List.cons_append, replaceCodes_named hbehind, replaceCodes_named hnamed, ih (by omega), List.append_assoc]
      · have hother' : c ≠ ':' ∨ ∀ name after, ¬Named (cs ++ ['\\']) name after := by
          refine hother.imp_right fun hnone name after hnamed => ?_
          rcases List.eq_nil_or_concat after with rfl | ⟨front, last, rfl⟩
          · have hlast := congrArg List.getLast? hnamed.split
            simp at hlast
          · have hsplit := hnamed.split
            rw [List.concat_eq_append, ← List.cons_append, ← List.append_assoc] at hsplit
            exact hnone name front ⟨(List.append_inj' hsplit rfl).1, hnamed.plain⟩
        rw [List.cons_append, replaceCodes_other hother', replaceCodes_other hother, ih (by omega), List.cons_append]

end

namespace Markup

/-! ## Escaped brackets -/

/-- Whether a text has an escaped bracket. -/
def HasEscaped (cs : List Char) : Prop :=
  ['\\', '['] <:+: cs

/-- Whether a text does not begin with an escaped bracket. -/
def Unescaped (c : Char) (cs : List Char) : Prop :=
  c = '\\' → cs.head? ≠ some '['

theorem unescape_cons (h : Unescaped c cs) : unescape (c :: cs) = c :: unescape cs := by
  rw [unescape.eq_def]
  split
  · rename_i heq
    cases heq
    exact absurd rfl (h rfl)
  · rename_i heq
    cases heq
    rfl
  · rename_i heq
    cases heq

theorem hasEscaped_cons (h : Unescaped c cs) : HasEscaped (c :: cs) ↔ HasEscaped cs := by
  have hstart : ¬['\\', '['] <+: c :: cs := by
    rintro ⟨rest, heq⟩
    cases heq
    exact absurd rfl (h rfl)
  rw [HasEscaped, List.infix_cons_iff, or_iff_right hstart]
  rfl

/-- What holds of texts by their first character, or by the escaped bracket that they begin with, holds of all. -/
theorem escaped_cases {P : List Char → Prop} (nil : P []) (bracket : ∀ cs, P cs → P ('\\' :: '[' :: cs))
    (other : ∀ c cs, Unescaped c cs → P cs → P (c :: cs)) (cs : List Char) : P cs := by
  induction cs using unescape.induct with
  | case1 cs ih => exact bracket cs ih
  | case2 c cs h ih =>
    refine other c cs (fun hc hhead => ?_) ih
    obtain ⟨rest, rfl⟩ := List.head?_eq_some_iff.1 hhead
    exact h rest hc rfl
  | case3 => exact nil

theorem length_unescape_le (cs : List Char) : (unescape cs).length ≤ cs.length := by
  induction cs using escaped_cases with
  | nil => exact Nat.le_refl _
  | bracket cs ih =>
    rw [unescape]
    simp only [List.length_cons]
    omega
  | other c cs h ih =>
    rw [unescape_cons h, List.length_cons, List.length_cons]
    omega

theorem length_unescape_lt (h : HasEscaped cs) : (unescape cs).length < cs.length := by
  induction cs using escaped_cases with
  | nil => exact absurd (List.infix_nil.1 h) (List.cons_ne_nil _ _)
  | bracket cs ih =>
    have hle := length_unescape_le cs
    rw [unescape]
    simp only [List.length_cons]
    omega
  | other c cs hother ih =>
    have hlt := ih ((hasEscaped_cons hother).1 h)
    rw [unescape_cons hother, List.length_cons, List.length_cons]
    omega

theorem unescape_of_not_hasEscaped (h : ¬HasEscaped cs) : unescape cs = cs := by
  induction cs using escaped_cases with
  | nil => rfl
  | bracket cs ih => exact absurd ⟨[], cs, rfl⟩ h
  | other c cs hother ih => rw [unescape_cons hother, ih (mt (hasEscaped_cons hother).2 h)]

theorem unescape_concat_slash (cs : List Char) : unescape (cs ++ ['\\']) = unescape cs ++ ['\\'] := by
  induction cs using escaped_cases with
  | nil => rfl
  | bracket cs ih =>
    rw [List.cons_append, List.cons_append, unescape, ih, unescape]
    rfl
  | other c cs h ih =>
    have hother : Unescaped c (cs ++ ['\\']) := by
      intro hc
      cases cs with
      | nil => simp
      | cons d cs => exact h hc
    rw [List.cons_append, unescape_cons hother, ih, unescape_cons h, List.cons_append]

/-! ## Runs of text -/

variable [Lexicon]

theorem length_shown_le (cs : List Char) : (shown cs).length ≤ cs.length := by
  have hfilter := List.length_filter_le (fun c => !isDropped c) (replaceCodes (unescape cs).length (unescape cs))
  have hcodes := length_replaceCodes_le (unescape cs).length (unescape cs)
  have hbrackets := length_unescape_le cs
  exact hfilter.trans (hcodes.trans hbrackets)

theorem shown_of_plain (hescaped : ¬HasEscaped cs) (hcodes : replaceCodes cs.length cs = cs)
    (hdropped : ∀ c ∈ cs, isDropped c = false) : shown cs = cs := by
  rw [shown, unescape_of_not_hasEscaped hescaped, hcodes, List.filter_eq_self]
  simpa using hdropped

/-- **A run of text is shown as it is** if and only if it has no escaped bracket, no code that is replaced and no
character that is dropped. -/
theorem shown_eq_self_iff :
    shown cs = cs ↔ ¬HasEscaped cs ∧ replaceCodes cs.length cs = cs ∧ ∀ c ∈ cs, isDropped c = false := by
  refine ⟨fun h => ?_, fun h => shown_of_plain h.1 h.2.1 h.2.2⟩
  have hlength := congrArg List.length h
  have hescaped : ¬HasEscaped cs := by
    intro hescaped
    have hshorter := length_unescape_lt hescaped
    have hfilter := List.length_filter_le (fun c => !isDropped c) (replaceCodes (unescape cs).length (unescape cs))
    have hcodes := length_replaceCodes_le (unescape cs).length (unescape cs)
    rw [shown] at hlength
    omega
  rw [shown, unescape_of_not_hasEscaped hescaped] at h hlength
  have hcodes := length_replaceCodes_le cs.length cs
  have hkept := List.length_filter_le (fun c => !isDropped c) (replaceCodes cs.length cs)
  -- nothing is dropped, as the codes leave no more characters than are shown
  have hall : ∀ c ∈ replaceCodes cs.length cs, (!isDropped c) = true :=
    List.length_filter_eq_length_iff.1 (by omega)
  have hsame : replaceCodes cs.length cs = cs := (List.filter_eq_self.2 hall).symm.trans h
  rw [hsame] at hall
  exact ⟨hescaped, hsame, by simpa using hall⟩

theorem shown_concat_slash (cs : List Char) : shown (cs ++ ['\\']) = shown cs ++ ['\\'] := by
  rw [shown, unescape_concat_slash, List.length_append, List.length_singleton,
    replaceCodes_concat_slash (Nat.le_refl _), List.filter_append]
  rfl

theorem shown_slashes (n : Nat) : shown (List.replicate n '\\') = List.replicate n '\\' := by
  induction n with
  | zero => rfl
  | succ n ih => rw [List.replicate_succ', shown_concat_slash, ih]

theorem shown_space (cs : List Char) : shown (' ' :: cs) = ' ' :: shown cs := by
  have hescaped : Unescaped ' ' cs := fun h => absurd h (by decide)
  rw [shown, unescape_cons hescaped, List.length_cons, replaceCodes_other (Or.inl (by decide))]
  rfl

end Markup

end Transplant.Terminal
