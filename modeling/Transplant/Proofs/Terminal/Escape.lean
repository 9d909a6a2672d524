import Transplant.Proofs.Terminal.Shown
import Transplant.Proofs.Terminal.Tokens

/-!
# Escaped texts

A tag in an escaped text is read with its backslashes doubled and one more, so that it is shown as text behind its
backslashes; a backslash at the end stays doubled. What the runs of text and the brackets are themselves shown as
decides whether an escaped text is shown as it is.

Main statements: `showTokens_escaped`, and `told_eq_self_iff` for when this is the text itself.
-/

namespace Transplant.Terminal.Markup

variable {cs body : List Char} {ts : List Token} {seen : Seen}

/-! ## Runs -/

/-- The characters of a token. -/
def Token.raw : Token → List Char
  | .text cs => cs
  | .tag slashes body => List.replicate slashes '\\' ++ bracketed body

/-- The characters of a token without the backslashes before a tag. -/
def Token.run : Token → List Char
  | .text cs => cs
  | .tag _ body => bracketed body

theorem flatMap_textTokens {f : Token → List Char} (hf : f (.text []) = []) (cs : List Char) :
    (textTokens cs).flatMap f = f (.text cs) := by
  cases cs with
  | nil => exact hf.symm
  | cons c cs => exact List.flatMap_singleton ..

theorem Parsed.flatMap_raw (h : Parsed cs ts) : ts.flatMap Token.raw = cs := by
  induction h with
  | text _ => exact flatMap_textTokens rfl _
  | tag _ _ _ ih =>
    rw [List.flatMap_append, List.flatMap_cons, flatMap_textTokens rfl, ih, Token.raw, Token.raw, List.append_assoc]

theorem Parsed.run_within (h : Parsed cs ts) {t : Token} (ht : t ∈ ts) : t.run <:+: cs := by
  have hraw : t.run <:+: t.raw := by
    cases t with
    | text cs => exact List.infix_rfl
    | tag slashes body => exact (List.suffix_append _ _).isInfix
  rw [← h.flatMap_raw]
  exact hraw.trans (List.infix_of_mem_flatten (List.mem_map_of_mem ht))

/-- Parts that are not longer than others make up the same whole only if they are the same. -/
theorem flatMap_eq_iff {f g : Token → List Char} (hle : ∀ t, (f t).length ≤ (g t).length) (ts : List Token) :
    ts.flatMap f = ts.flatMap g ↔ ∀ t ∈ ts, f t = g t := by
  have hsum (ts : List Token) : (ts.flatMap f).length ≤ (ts.flatMap g).length := by
    induction ts with
    | nil => exact Nat.le_refl _
    | cons t ts ih =>
      have ht := hle t
      simp only [List.flatMap_cons, List.length_append]
      omega
  induction ts with
  | nil => simp
  | cons t ts ih =>
    rw [List.flatMap_cons, List.flatMap_cons, List.forall_mem_cons]
    constructor
    · intro h
      have hlength := congrArg List.length h
      have ht := hle t
      have hts := hsum ts
      simp only [List.length_append] at hlength
      obtain ⟨hfirst, hrest⟩ := List.append_inj h (by omega)
      exact ⟨hfirst, ih.1 hrest⟩
    · rintro ⟨hfirst, hrest⟩
      rw [hfirst, ih.2 hrest]

/-- A tag ends with its bracket. -/
theorem Tagless.concat {c : Char} (h : Tagless cs) (hc : c ≠ ']') : Tagless (cs ++ [c]) := by
  rintro body hbody ⟨front, behind, heq⟩
  rcases List.eq_nil_or_concat behind with rfl | ⟨behind, last, rfl⟩
  · rw [List.append_nil, bracketed, ← List.append_assoc] at heq
    obtain rfl : ']' = c := by simpa using (List.append_inj' heq rfl).2
    exact hc rfl
  · rw [List.concat_eq_append, ← List.append_assoc] at heq
    exact h body hbody ⟨front, behind, (List.append_inj' heq rfl).1⟩

/-! ## The end of a text -/

theorem endsWithSlash_concat (cs : List Char) (c : Char) :
    endsWithSlash (cs ++ [c]) = (c == '\\' && cs.getLast? != some '\\') := by
  rw [endsWithSlash, List.reverse_concat, ← List.head?_reverse]
  by_cases hc : c = '\\'
  · subst hc
    cases hlast : cs.reverse with
    | nil => rfl
    | cons before front => by_cases hbefore : before = '\\' <;> simp [hbefore]
  · simp [hc]

theorem endsWithSlash_append (front cs : List Char) : endsWithSlash (front ++ ']' :: cs) = endsWithSlash cs := by
  rcases List.eq_nil_or_concat cs with rfl | ⟨body, c, rfl⟩
  · rw [endsWithSlash_concat]
    rfl
  · rw [List.concat_eq_append, ← List.cons_append, ← List.append_assoc, endsWithSlash_concat, endsWithSlash_concat,
      List.getLast?_append_cons]
    cases body with
    | nil => rfl
    | cons d body => simp

theorem Parsed.endsWithSlash_escaped (h : Parsed cs ts) :
    endsWithSlash (ts.flatMap Token.escaped) = endsWithSlash cs := by
  induction h with
  | text _ => rw [flatMap_textTokens rfl, Token.escaped]
  | @tag run body after s ts _ _ _ ih =>
    have hraw : run ++ (List.replicate s '\\' ++ (bracketed body ++ after)) =
        run ++ (List.replicate s '\\' ++ '[' :: body) ++ ']' :: after := by simp [bracketed]
    have hescaped : (textTokens run ++ .tag s body :: ts).flatMap Token.escaped =
        run ++ (List.replicate (2 * s + 1) '\\' ++ '[' :: body) ++ ']' :: ts.flatMap Token.escaped := by
      rw [List.flatMap_append, List.flatMap_cons, flatMap_textTokens rfl]
      simp [Token.escaped, bracketed]
    rw [hraw, hescaped, endsWithSlash_append, endsWithSlash_append, ih]

theorem toList_escape (text : String) :
    (escape text).toList =
      (tokens text.toList).flatMap Token.escaped ++ if endsWithSlash text.toList then ['\\'] else [] := by
  have hparsed : Parsed text.toList (tokens text.toList) := tokens_eq_iff.1 rfl
  simp only [escape, hparsed.endsWithSlash_escaped, String.toList_ofList]
  split
  · rfl
  · exact (List.append_nil _).symm

/-! ## Showing -/

variable [Lexicon]

/-- What is shown of a token that is not to be read as a tag. -/
def Token.told : Token → List Char
  | .text cs => shown cs
  | .tag slashes body => List.replicate slashes '\\' ++ shown (bracketed body)

theorem length_told_le (t : Token) : t.told.length ≤ t.raw.length := by
  cases t with
  | text cs => exact length_shown_le cs
  | tag slashes body =>
    have hle := length_shown_le (bracketed body)
    simp only [Token.told, Token.raw, List.length_append]
    omega

theorem told_eq_raw_iff (t : Token) : t.told = t.raw ↔ shown t.run = t.run := by
  cases t with
  | text cs => exact Iff.rfl
  | tag slashes body => exact List.append_right_inj _

theorem showTokens_odd (position : Nat) (tags : List Opened) (slashes : Nat) (body : List Char) (rest : List Token) :
    showTokens position tags (.tag (2 * slashes + 1) body :: rest) =
      (showTokens (position + (2 * slashes + 1) + body.length + 2) tags rest).map
        (Seen.after (Token.told (.tag slashes body))) := by
  have hodd : (2 * slashes + 1) % 2 = 1 := by omega
  have hhalf : (2 * slashes + 1) / 2 = slashes := by omega
  rw [showTokens_tag, if_pos hodd, hhalf, Token.told]

/-- **An escaped text is shown run by run**, whatever stands in front of it. -/
theorem showTokens_escaped (h : Parsed cs ts) {tail : List Char} (htail : tail = [] ∨ tail = ['\\']) :
    ∃ ts', Parsed (ts.flatMap Token.escaped ++ tail) ts' ∧
      ∀ position tags, showTokens position tags ts' = .ok ⟨ts.flatMap Token.told ++ tail, []⟩ := by
  induction h with
  | @text cs htagless =>
    rw [flatMap_textTokens rfl, flatMap_textTokens (f := Token.told) rfl, Token.escaped, Token.told]
    have hwhole : Tagless (cs ++ tail) ∧ shown (cs ++ tail) = shown cs ++ tail := by
      rcases htail with rfl | rfl
      · rw [List.append_nil, List.append_nil]
        exact ⟨htagless, rfl⟩
      · exact ⟨htagless.concat (by decide), shown_concat_slash cs⟩
    refine ⟨_, .text hwhole.1, fun position tags => ?_⟩
    rw [showTokens_run, hwhole.2]
  | @tag run body after s ts hrun hbody _ ih =>
    obtain ⟨ts', hparsed, hshow⟩ := ih
    refine ⟨textTokens run ++ .tag (2 * s + 1) body :: ts', ?_, fun position tags => ?_⟩
    · have hsplit : (textTokens run ++ .tag s body :: ts).flatMap Token.escaped ++ tail =
          run ++ (List.replicate (2 * s + 1) '\\' ++ (bracketed body ++ (ts.flatMap Token.escaped ++ tail))) := by
        rw [List.flatMap_append, List.flatMap_cons, flatMap_textTokens rfl]
        simp only [Token.escaped, List.append_assoc]
      rw [hsplit]
      exact .tag hrun hbody hparsed
    · rw [showTokens_textTokens, showTokens_odd, hshow, List.flatMap_append, List.flatMap_cons,
        flatMap_textTokens rfl, List.append_assoc, List.append_assoc]
      rfl

theorem Parsed.told_concat_slash (h : Parsed cs ts) (hend : endsWithSlash cs = true) :
    ∃ front, ts.flatMap Token.told = front ++ ['\\'] := by
  induction h with
  | @text cs _ =>
    rw [flatMap_textTokens rfl, Token.told]
    rcases List.eq_nil_or_concat cs with rfl | ⟨front, last, rfl⟩
    · cases hend
    · rw [List.concat_eq_append, endsWithSlash_concat, Bool.and_eq_true, beq_iff_eq] at hend
      rw [List.concat_eq_append, hend.1, shown_concat_slash]
      exact ⟨_, rfl⟩
  | @tag run body after s ts _ _ _ ih =>
    have hraw : run ++ (List.replicate s '\\' ++ (bracketed body ++ after)) =
        run ++ (List.replicate s '\\' ++ '[' :: body) ++ ']' :: after := by simp [bracketed]
    rw [hraw, endsWithSlash_append] at hend
    obtain ⟨front, hfront⟩ := ih hend
    rw [List.flatMap_append, List.flatMap_cons, hfront, ← List.append_assoc, ← List.append_assoc]
    exact ⟨_, rfl⟩

/-! ## Escaped texts -/

/-- What is told of a text that is escaped. -/
def told (cs : List Char) : List Char :=
  (tokens cs).flatMap Token.told ++ if endsWithSlash cs then ['\\'] else []

/-- **When an escaped text is shown as it is**: it does not end with one backslash only, and its runs and brackets
are shown as they are. -/
theorem told_eq_self_iff : told cs = cs ↔ (∀ t ∈ tokens cs, shown t.run = t.run) ∧ endsWithSlash cs = false := by
  have hparsed : Parsed cs (tokens cs) := tokens_eq_iff.1 rfl
  have hsame : (tokens cs).flatMap Token.told = cs ↔ ∀ t ∈ tokens cs, shown t.run = t.run := by
    have hparts := flatMap_eq_iff length_told_le (tokens cs)
    rw [hparsed.flatMap_raw] at hparts
    exact hparts.trans (forall₂_congr fun t _ => told_eq_raw_iff t)
  rw [told]
  cases hend : endsWithSlash cs with
  | false => simp [hsame]
  | true =>
    refine ⟨fun h => ?_, nofun⟩
    obtain ⟨front, hfront⟩ := hparsed.told_concat_slash hend
    rw [if_pos rfl, hfront] at h
    rw [← h, endsWithSlash_concat] at hend
    simp at hend

/-- A text without an escaped bracket, a code and a dropped character is shown as it is, whatever brackets are in it,
unless it ends with one backslash only. -/
theorem told_of_plain (hend : endsWithSlash cs = false) (hescaped : ¬HasEscaped cs) (hcode : ¬HasCode cs)
    (hdropped : ∀ c ∈ cs, isDropped c = false) : told cs = cs := by
  refine told_eq_self_iff.2 ⟨fun t ht => ?_, hend⟩
  have hin : t.run <:+: cs := (tokens_eq_iff.1 rfl).run_within ht
  refine shown_of_plain (fun h => hescaped (h.trans hin)) (replaceCodes_of_not_hasCode ?_) fun c hc =>
    hdropped c (hin.subset hc)
  rintro ⟨name, pics, hpics, hname⟩
  exact hcode ⟨name, pics, hpics, hname.trans hin⟩

/-- **An escaped text behind a mark is always shown**, as it is told. -/
theorem Mark.visible_escaped (m : Mark) {markup text : String}
    (h : markup.toList = m.text ++ ' ' :: (escape text).toList) :
    visible markup = .ok (m.sign ++ ' ' :: told text.toList) := by
  have htail : (if endsWithSlash text.toList then ['\\'] else []) = ([] : List Char) ∨
      (if endsWithSlash text.toList then ['\\'] else []) = ['\\'] := by
    cases endsWithSlash text.toList <;> simp
  obtain ⟨ts, hparsed, hshow⟩ := showTokens_escaped (tokens_eq_iff.1 rfl) htail
  rw [← toList_escape] at hparsed
  have hread := m.read_eq h hparsed
  rw [hshow] at hread
  exact visible_of_read hread (List.forall_mem_singleton.2 m.draws)

end Transplant.Terminal.Markup
