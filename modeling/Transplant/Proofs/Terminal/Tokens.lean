import Mathlib.Data.Bool.AllAny
import Mathlib.Data.List.Infix
import Transplant.Proofs.Terminal.Markup
import Transplant.Proofs.Terminal.Shown

/-!
# The tokens of a text

The tokens of a text are told without a scan: up to its first tag a text is a run without tags that does not end with
a backslash, then come the backslashes in front of the tag, the tag, and the tokens of the rest (`Parsed`). Every text
has just one list of tokens in this sense (`tokens_eq_iff`). So what is read behind a mark is told by the tokens of
the text there (`Mark.read_eq`).
-/

namespace Transplant.Terminal.Markup

variable {cs run body after : List Char} {s n fuel : Nat}

/-! ## Tags -/

/-- Whether some characters between brackets are a tag. -/
def IsTag (body : List Char) : Prop :=
  ∃ c run, body = c :: run ∧ startsTag c ∧ ∀ x ∈ run, x ≠ '[' ∧ x ≠ ']'

/-- Whether a text has no tag. -/
def Tagless (cs : List Char) : Prop :=
  ∀ body, IsTag body → ¬bracketed body <:+: cs

theorem IsTag.no_bracket (h : IsTag body) : '[' ∉ body ∧ ']' ∉ body := by
  obtain ⟨c, run, rfl, hc, hrun⟩ := h
  have hne : c ≠ '[' ∧ c ≠ ']' := by
    constructor <;> (rintro rfl; exact absurd hc (by decide))
  refine ⟨fun hmem => ?_, fun hmem => ?_⟩
  · rcases List.mem_cons.1 hmem with heq | hmem
    · exact hne.1 heq.symm
    · exact (hrun _ hmem).1 rfl
  · rcases List.mem_cons.1 hmem with heq | hmem
    · exact hne.2 heq.symm
    · exact (hrun _ hmem).2 rfl

theorem readTag_eq_some : readTag cs = some (body, after) ↔ IsTag body ∧ cs = bracketed body ++ after := by
  constructor
  · intro h
    rw [readTag.eq_def] at h
    split at h
    · rename_i c rest
      dsimp only at h
      split at h
      · rename_i behind hc hdrop
        cases h
        rw [Text.drop_takeWhile] at hdrop
        have hsplit := List.takeWhile_append_dropWhile (p := fun x => x != '[' && x != ']') (l := rest)
        rw [hdrop] at hsplit
        refine ⟨⟨c, _, rfl, hc, fun x hx => by simpa using List.mem_takeWhile_imp hx⟩, ?_⟩
        generalize rest.takeWhile _ = run at hsplit
        rw [← hsplit]
        simp [bracketed]
      · cases h
    · cases h
  · rintro ⟨⟨c, run, rfl, hc, hrun⟩, rfl⟩
    exact readTag_bracketed hc hrun after

instance (body : List Char) : Decidable (IsTag body) :=
  decidable_of_iff (readTag (bracketed body) = some (body, [])) <| by
    rw [readTag_eq_some, List.append_nil]
    exact and_iff_left rfl

theorem Tagless.of_part {part : List Char} (h : Tagless cs) (hpart : part <:+: cs) : Tagless part :=
  fun body hbody hin => h body hbody (hin.trans hpart)

theorem tagless_of_plain (h : '[' ∉ cs) : Tagless cs := by
  intro body _ hin
  exact h (hin.subset (by simp [bracketed]))

theorem Tagless.readTag (h : Tagless cs) : readTag cs = none := by
  rw [Option.eq_none_iff_forall_ne_some]
  rintro ⟨body, after⟩ hread
  obtain ⟨hbody, rfl⟩ := readTag_eq_some.1 hread
  exact h body hbody (List.prefix_append _ _).isInfix

theorem tagless_cons {c : Char} (hread : Markup.readTag (c :: cs) = none) (h : Tagless cs) : Tagless (c :: cs) := by
  intro body hbody hin
  rcases List.infix_cons_iff.1 hin with ⟨after, hstart⟩ | hin
  · rw [readTag_eq_some.2 ⟨hbody, hstart.symm⟩] at hread
    cases hread
  · exact h body hbody hin

/-- What goes on with an opening bracket behind some backslashes does not end a tag. -/
theorem Tagless.readTag_append {c : Char} (h : Tagless (c :: run)) (s : Nat) (rest : List Char) :
    Markup.readTag (c :: run ++ (List.replicate s '\\' ++ '[' :: rest)) = none := by
  rw [Option.eq_none_iff_forall_ne_some]
  rintro ⟨body, after⟩ hread
  obtain ⟨hbody, heq⟩ := readTag_eq_some.1 hread
  obtain ⟨hopen, hclose⟩ := hbody.no_bracket
  rcases List.append_eq_append_iff.1 heq with ⟨tail, htag, hbehind⟩ | ⟨tail, hrun, -⟩
  · obtain ⟨rfl, hrest⟩ : '[' = c ∧ body ++ [']'] = run ++ tail := List.cons.inj htag
    -- the tag would end with what stands behind the run, which begins with a bracket or ends with a backslash
    have hno : '[' ∉ tail := by
      intro hmem
      have hin : '[' ∈ body ++ [']'] := hrest ▸ List.mem_append_right _ hmem
      simp [hopen] at hin
    rcases List.eq_nil_or_concat tail with rfl | ⟨front, last, rfl⟩
    · rw [List.append_nil] at htag
      exact h body hbody ⟨[], [], by simp [htag]⟩
    · rw [List.concat_eq_append] at hrest hno hbehind
      rw [← List.append_assoc] at hrest
      obtain rfl : ']' = last := by simpa using (List.append_inj' hrest rfl).2
      rcases List.append_eq_append_iff.1 hbehind with ⟨more, hmore, hstart⟩ | ⟨more, hslashes, -⟩
      · cases more with
        | nil =>
          have hmem : ']' ∈ List.replicate s '\\' := by
            rw [List.append_nil] at hmore
            simp [← hmore]
          exact absurd (List.eq_of_mem_replicate hmem) (by decide)
        | cons d more =>
          obtain ⟨rfl, -⟩ := List.cons.inj hstart
          exact hno (by simp [hmore])
      · have hmem : ']' ∈ List.replicate s '\\' := by simp [hslashes]
        exact absurd (List.eq_of_mem_replicate hmem) (by decide)
  · exact h body hbody ⟨[], tail, by simp [hrun]⟩

/-! ## The first tag -/

/-- A run of text in front of a tag and its backslashes. -/
structure Before (run : List Char) : Prop where
  tagless : Tagless run
  last : run.getLast? ≠ some '\\'

theorem nextTag_tagless (h : Tagless cs) (n : Nat) : nextTag n cs = (List.replicate n '\\' ++ cs, none) := by
  induction cs generalizing n with
  | nil => simp [nextTag]
  | cons c rest ih =>
    have hrest : Tagless rest := h.of_part (List.suffix_cons c rest).isInfix
    by_cases hc : c = '\\'
    · rw [nextTag, if_pos (beq_iff_eq.2 hc), ih hrest, hc, List.replicate_succ']
      simp
    · rw [nextTag, if_neg (by simpa using hc), h.readTag, ih hrest]
      rfl

theorem nextTag_slashes (hbody : IsTag body) (n s : Nat) :
    nextTag n (List.replicate s '\\' ++ (bracketed body ++ after)) = ([], some (n + s, body, after)) := by
  induction s generalizing n with
  | zero =>
    have hread : readTag (bracketed body ++ after) = some (body, after) := readTag_eq_some.2 ⟨hbody, rfl⟩
    rw [bracketed, List.cons_append, List.cons_append] at hread ⊢
    rw [List.replicate_zero, List.nil_append, nextTag, if_neg (by decide), hread]
    rfl
  | succ s ih =>
    rw [List.replicate_succ, List.cons_append, nextTag, if_pos (by decide), ih]
    simp
    omega

theorem nextTag_before (hrun : Before run) (hne : run ≠ []) (hbody : IsTag body) (n : Nat) :
    nextTag n (run ++ (List.replicate s '\\' ++ (bracketed body ++ after))) =
      (List.replicate n '\\' ++ run, some (s, body, after)) := by
  induction run generalizing n with
  | nil => exact absurd rfl hne
  | cons c rest ih =>
    obtain ⟨htagless, hlast⟩ := hrun
    have hrest : rest ≠ [] → Before rest := by
      intro hne
      refine ⟨htagless.of_part (List.suffix_cons c rest).isInfix, ?_⟩
      rwa [List.getLast?_cons_of_ne_nil hne] at hlast
    by_cases hc : c = '\\'
    · have hne : rest ≠ [] := by
        rintro rfl
        exact hlast (by rw [hc]; rfl)
      rw [List.cons_append, nextTag, if_pos (beq_iff_eq.2 hc), ih (hrest hne) hne, hc, List.replicate_succ']
      simp
    · have hread := htagless.readTag_append s (body ++ [']'] ++ after)
      have hbracketed : bracketed body ++ after = '[' :: (body ++ [']'] ++ after) := rfl
      rw [← hbracketed] at hread
      rw [List.cons_append] at hread ⊢
      rw [nextTag, if_neg (by simpa using hc), hread]
      by_cases hnil : rest = []
      · subst hnil
        rw [List.nil_append, nextTag_slashes hbody]
        simp
      · rw [ih (hrest hnil) hnil]
        rfl

theorem nextTag_eq (hrun : Before run) (hbody : IsTag body) :
    nextTag 0 (run ++ (List.replicate s '\\' ++ (bracketed body ++ after))) = (run, some (s, body, after)) := by
  by_cases hnil : run = []
  · rw [hnil, List.nil_append, nextTag_slashes hbody, Nat.zero_add]
  · rw [nextTag_before hrun hnil hbody]
    rfl

/-- A text has no tag, or a first one. -/
theorem tagless_or (cs : List Char) :
    Tagless cs ∨ ∃ run s body after, Before run ∧ IsTag body ∧
      cs = run ++ (List.replicate s '\\' ++ (bracketed body ++ after)) := by
  induction cs with
  | nil => exact Or.inl (tagless_of_plain nofun)
  | cons c rest ih =>
    cases hread : readTag (c :: rest) with
    | some found =>
      obtain ⟨body, after⟩ := found
      obtain ⟨hbody, heq⟩ := readTag_eq_some.1 hread
      exact Or.inr ⟨[], 0, body, after, ⟨tagless_of_plain nofun, nofun⟩, hbody, heq⟩
    | none =>
      rcases ih with htagless | ⟨run, s, body, after, ⟨htagless, hlast⟩, hbody, rfl⟩
      · exact Or.inl (tagless_cons hread htagless)
      · right
        by_cases hslash : run = [] ∧ c = '\\'
        · obtain ⟨rfl, rfl⟩ := hslash
          exact ⟨[], s + 1, body, after, ⟨htagless, hlast⟩, hbody, by simp [List.replicate_succ]⟩
        · have hfirst : readTag (c :: run) = none := by
            rw [Option.eq_none_iff_forall_ne_some]
            rintro ⟨other, behind⟩ hother
            obtain ⟨htag, heq⟩ := readTag_eq_some.1 hother
            rw [← List.cons_append, heq, List.append_assoc, readTag_eq_some.2 ⟨htag, rfl⟩] at hread
            cases hread
          refine ⟨c :: run, s, body, after, ⟨tagless_cons hfirst htagless, ?_⟩, hbody, rfl⟩
          by_cases hnil : run = []
          · intro hlast
            subst hnil
            exact hslash ⟨rfl, by simpa using hlast⟩
          · rwa [List.getLast?_cons_of_ne_nil hnil]

/-! ## All tokens -/

/-- The tokens of a text. -/
inductive Parsed : List Char → List Token → Prop where
  | text {cs : List Char} : Tagless cs → Parsed cs (textTokens cs)
  | tag {run body after : List Char} {s : Nat} {ts : List Token} : Before run → IsTag body → Parsed after ts →
    Parsed (run ++ (List.replicate s '\\' ++ (bracketed body ++ after))) (textTokens run ++ .tag s body :: ts)

theorem readTokens_parsed {ts : List Token} (h : Parsed cs ts) (hfuel : cs.length < fuel) :
    readTokens fuel cs = ts := by
  induction h generalizing fuel with
  | text htagless =>
    obtain ⟨fuel, rfl⟩ := Nat.exists_eq_succ_of_ne_zero (show fuel ≠ 0 by omega)
    rw [readTokens, nextTag_tagless htagless]
    rfl
  | tag hrun hbody _ ih =>
    obtain ⟨fuel, rfl⟩ := Nat.exists_eq_succ_of_ne_zero (show fuel ≠ 0 by omega)
    rw [readTokens, nextTag_eq hrun hbody]
    dsimp only
    rw [ih]
    · rfl
    · simp only [List.length_append, bracketed, List.length_cons] at hfuel
      omega

theorem exists_parsed (cs : List Char) : ∃ ts, Parsed cs ts := by
  induction hlength : cs.length using Nat.strong_induction_on generalizing cs with
  | _ n ih =>
    rcases tagless_or cs with htagless | ⟨run, s, body, after, hrun, hbody, rfl⟩
    · exact ⟨_, .text htagless⟩
    · simp only [List.length_append, bracketed, List.length_cons] at hlength
      obtain ⟨ts, hts⟩ := ih after.length (by omega) after rfl
      exact ⟨_, .tag hrun hbody hts⟩

/-- **A text has just one list of tokens.** -/
theorem tokens_eq_iff {ts : List Token} : tokens cs = ts ↔ Parsed cs ts := by
  obtain ⟨ts', hts'⟩ := exists_parsed cs
  have htokens : tokens cs = ts' := readTokens_parsed hts' (Nat.lt_succ_self _)
  constructor
  · rintro rfl
    rwa [htokens]
  · exact fun h => readTokens_parsed h (Nat.lt_succ_self _)

/-! ## What is seen -/

section

variable [Lexicon]

theorem showTokens_tag (position : Nat) (tags : List Opened) (slashes : Nat) (body : List Char) (rest : List Token) :
    showTokens position tags (.tag slashes body :: rest) =
      if slashes % 2 = 1 then
        (showTokens (position + slashes + body.length + 2) tags rest).map
          (Seen.after (List.replicate (slashes / 2) '\\' ++ shown (bracketed body)))
      else
        step (position + slashes) tags body >>= fun opened =>
          (showTokens (position + slashes + body.length + 2) opened rest).map fun seen =>
            ⟨List.replicate (slashes / 2) '\\' ++ seen.text, definitionsOf tags opened ++ seen.styles⟩ := by
  rw [showTokens]
  simp only [shown_slashes, beq_iff_eq]
  split
  · cases showTokens (position + slashes + body.length + 2) tags rest <;> rfl
  · refine congrArg (step (position + slashes) tags body >>= ·) (funext fun opened => ?_)
    cases showTokens (position + slashes + body.length + 2) opened rest <;> rfl

theorem showTokens_opened {position : Nat} {tags opened : List Opened}
    (hstep : step position tags body = .ok opened) (rest : List Token) :
    showTokens position tags (.tag 0 body :: rest) =
      (showTokens (position + body.length + 2) opened rest).map fun seen =>
        { seen with styles := definitionsOf tags opened ++ seen.styles } := by
  rw [showTokens_tag, if_neg (by decide), Nat.add_zero, hstep]
  rfl

/-- What is seen of a tag is shorter than the tag with its backslashes. -/
theorem exists_seen_tag {position slashes : Nat} {tags : List Opened} {ts : List Token} {seen : Seen}
    (h : showTokens position tags (.tag slashes body :: ts) = .ok seen) :
    ∃ position' tags' front seen', showTokens position' tags' ts = .ok seen' ∧ seen.text = front ++ seen'.text ∧
      front.length < slashes + (bracketed body).length := by
  have hbracketed : (bracketed body).length = body.length + 2 := by simp [bracketed]
  rw [showTokens_tag] at h
  split at h
  case isTrue hodd =>
    obtain ⟨seen', hrest, rfl⟩ := ok_of_map h
    have hshown := length_shown_le (bracketed body)
    refine ⟨_, _, _, seen', hrest, rfl, ?_⟩
    rw [List.length_append, List.length_replicate]
    omega
  case isFalse =>
    obtain ⟨tags', -, h⟩ := ok_of_bind h
    obtain ⟨seen', hrest, rfl⟩ := ok_of_map h
    refine ⟨_, _, _, seen', hrest, rfl, ?_⟩
    rw [List.length_replicate]
    omega

theorem exists_seen_textTokens {position : Nat} {tags : List Opened} {ts : List Token} {seen : Seen}
    (h : showTokens position tags (textTokens run ++ ts) = .ok seen) :
    ∃ position' seen', showTokens position' tags ts = .ok seen' ∧ seen.text = shown run ++ seen'.text := by
  rw [showTokens_textTokens] at h
  obtain ⟨seen', hrest, rfl⟩ := ok_of_map h
  exact ⟨_, seen', hrest, rfl⟩

theorem length_seen_le {ts : List Token} (h : Parsed cs ts) {position : Nat} {tags : List Opened} {seen : Seen}
    (hseen : showTokens position tags ts = .ok seen) : seen.text.length ≤ cs.length := by
  induction h generalizing position tags seen with
  | text _ =>
    rw [showTokens_run] at hseen
    cases hseen
    exact length_shown_le _
  | @tag run body after s ts _ _ _ ih =>
    obtain ⟨_, behind, hbehind, htext⟩ := exists_seen_textTokens hseen
    obtain ⟨_, _, front, rest, hrest, htag, hfront⟩ := exists_seen_tag hbehind
    have hrun := length_shown_le run
    have hlength := ih hrest
    simp only [htext, htag, List.length_append, List.length_replicate]
    omega

/-- **A text is seen as it is** if and only if it has no tag and is shown as it is. -/
theorem seen_eq_self_iff {ts : List Token} (h : Parsed cs ts) (position : Nat) (tags : List Opened) :
    (∃ seen, showTokens position tags ts = .ok seen ∧ seen.text = cs) ↔ Tagless cs ∧ shown cs = cs := by
  constructor
  · rintro ⟨seen, hseen, htext⟩
    cases h with
    | text htagless =>
      rw [showTokens_run] at hseen
      cases hseen
      exact ⟨htagless, htext⟩
    | @tag run body after s ts _ _ hafter =>
      obtain ⟨_, behind, hbehind, hsplit⟩ := exists_seen_textTokens hseen
      obtain ⟨_, _, front, rest, hrest, htag, hfront⟩ := exists_seen_tag hbehind
      have hrun := length_shown_le run
      have hbehind := length_seen_le hafter hrest
      have hlength := congrArg List.length (htext.symm.trans hsplit)
      simp only [htag, List.length_append, List.length_replicate] at hlength
      omega
  · rintro ⟨htagless, hshown⟩
    obtain rfl : textTokens cs = ts := (tokens_eq_iff.2 (.text htagless)).symm.trans (tokens_eq_iff.2 h)
    exact ⟨_, showTokens_run position tags cs, hshown⟩

end

/-! ## Marks -/

/-- A sign in a style of its own, which has a name. No lexicon makes anything else of the sign. -/
structure Mark where
  style : List Char
  sign : List Char
  name : String
  isTag : IsTag style
  isName : '=' ∉ style ∧ style.head? ≠ some '/'
  isTrimmed : Text.trimBy Text.isBlank style = style
  normal : Style.normalize style = .ok name
  draws : Style.check name = .ok ()
  before : Before sign
  unescaped : '\\' ∉ sign
  uncoded : sign.count ':' ≤ 1
  kept : ∀ c ∈ sign, isDropped c = false

/-- A mark with its tags. -/
def Mark.text (m : Mark) : List Char :=
  bracketed m.style ++ (m.sign ++ bracketed ('/' :: m.style))

/-- The tag that a mark opens. -/
def Mark.opened (m : Mark) : Opened :=
  ⟨m.name, none⟩

theorem IsTag.close (h : IsTag body) : IsTag ('/' :: body) := by
  obtain ⟨hopen, hclose⟩ := h.no_bracket
  refine ⟨'/', body, rfl, by decide, fun x hx => ⟨?_, ?_⟩⟩
  · rintro rfl
    exact hopen hx
  · rintro rfl
    exact hclose hx

theorem takeWhile_bne {c : Char} (hc : c ∉ cs) : cs.takeWhile (· != c) = cs := by
  rw [List.takeWhile_eq_self_iff]
  intro x hx
  exact bne_iff_ne.2 fun heq => hc (heq ▸ hx)

variable [Lexicon]

/-- A code takes two colons. -/
theorem not_hasCode_of_count (h : cs.count ':' ≤ 1) : ¬HasCode cs := by
  rintro ⟨name, pics, -, hin⟩
  have htwo : 2 ≤ (':' :: name ++ [':']).count ':' := by
    simp only [List.cons_append, List.count_cons_self, List.count_append]
    simp
  have hle := hin.sublist.count_le ':'
  omega

theorem Mark.shown_sign (m : Mark) : shown m.sign = m.sign := by
  refine shown_of_plain (fun h => m.unescaped (h.subset (by simp))) ?_ m.kept
  exact replaceCodes_of_not_hasCode (not_hasCode_of_count m.uncoded)

theorem Mark.step_open (m : Mark) (position : Nat) (tags : List Opened) :
    step position tags m.style = .ok (m.opened :: tags) := by
  unfold step
  dsimp only
  rw [takeWhile_bne m.isName.1]
  split
  · rename_i hslash
    exact absurd (congrArg List.head? hslash) m.isName.2
  · rw [List.drop_length, m.normal]
    rfl

theorem Mark.step_close (m : Mark) (position : Nat) : step position [m.opened] ('/' :: m.style) = .ok [] := by
  have hname : '=' ∉ '/' :: m.style := by simpa using m.isName.1
  have hne : m.style.isEmpty = false := by
    obtain ⟨c, run, hstyle, -⟩ := m.isTag
    rw [hstyle, List.isEmpty_cons]
  unfold step
  dsimp only
  rw [takeWhile_bne hname]
  split
  · rename_i closed hclosed
    obtain rfl : m.style = closed := (List.cons.inj hclosed).2
    rw [m.isTrimmed, hne, m.normal]
    simp [Except.mapError, Mark.opened, Opened.close, bind, Except.bind, pure, Except.pure]
  · rename_i hother
    exact absurd rfl (hother m.style)

/-- A text with a space in front is shown as the text behind a space. -/
theorem parsed_space {ts : List Token} (h : Parsed cs ts) :
    ∃ ts', Parsed (' ' :: cs) ts' ∧ ∀ position tags,
      showTokens position tags ts' = (showTokens (position + 1) tags ts).map (Seen.after [' ']) := by
  have hrun {run : List Char} (hrun : Tagless run) : Tagless (' ' :: run) :=
    tagless_cons (readTag_of_ne (by decide) run) hrun
  have hshow (run : List Char) (position : Nat) (tags : List Opened) (rest : List Token) :
      showTokens position tags (textTokens (' ' :: run) ++ rest) =
        (showTokens (position + 1) tags (textTokens run ++ rest)).map (Seen.after [' ']) := by
    rw [showTokens_textTokens, showTokens_textTokens, shown_space, List.length_cons,
      show position + (run.length + 1) = position + 1 + run.length by omega]
    cases showTokens (position + 1 + run.length) tags rest <;> rfl
  cases h with
  | text htagless =>
    refine ⟨_, .text (hrun htagless), fun position tags => ?_⟩
    rw [showTokens_run, showTokens_run, shown_space]
    rfl
  | @tag run body after s ts hbefore hbody hafter =>
    have hspace : Before (' ' :: run) := by
      refine ⟨hrun hbefore.tagless, ?_⟩
      cases run with
      | nil => decide
      | cons c run => exact hbefore.last
    exact ⟨_, .tag hspace hbody hafter, fun position tags => hshow run position tags _⟩

/-- **What is read behind a mark**: the mark, a space and what is read of the text, in the styles of both. -/
theorem Mark.read_eq (m : Mark) {text : String} {ts : List Token} (htext : text.toList = m.text ++ ' ' :: cs)
    (h : Parsed cs ts) :
    read text = (showTokens (m.text.length + 1) [] ts).map fun seen =>
      ⟨m.sign ++ ' ' :: seen.text, m.name :: seen.styles⟩ := by
  obtain ⟨ts', hspace, hshow⟩ := parsed_space h
  have hparsed : Parsed text.toList (.tag 0 m.style :: (textTokens m.sign ++ .tag 0 ('/' :: m.style) :: ts')) := by
    have hclose := @Parsed.tag _ _ _ 0 _ m.before m.isTag.close hspace
    have hmark := @Parsed.tag [] _ _ 0 _ ⟨tagless_of_plain nofun, nofun⟩ m.isTag hclose
    rw [htext, Mark.text, List.append_assoc, List.append_assoc]
    exact hmark
  have hposition : 0 + m.style.length + 2 + m.sign.length + ('/' :: m.style).length + 2 + 1 = m.text.length + 1 := by
    simp only [Mark.text, bracketed, List.length_append, List.length_cons, List.length_nil]
    omega
  rw [read, tokens_eq_iff.2 hparsed, showTokens_opened (m.step_open 0 []), showTokens_textTokens,
    showTokens_opened (m.step_close _), hshow, m.shown_sign, hposition]
  cases showTokens (m.text.length + 1) [] ts <;> rfl

/-- **A text without a tag is shown behind a mark**, whatever else is in it. -/
theorem Mark.visible_tagless (m : Mark) {text : String} (htext : text.toList = m.text ++ ' ' :: cs)
    (h : Tagless cs) : visible text = .ok (m.sign ++ ' ' :: shown cs) := by
  have hread := m.read_eq htext (.text h)
  rw [showTokens_run] at hread
  exact visible_of_read hread (List.forall_mem_singleton.2 m.draws)

/-- **When a text is shown as it is behind a mark.** -/
theorem Mark.visible_eq_iff (m : Mark) {text : String} (htext : text.toList = m.text ++ ' ' :: cs) :
    visible text = .ok (m.sign ++ ' ' :: cs) ↔ Tagless cs ∧ shown cs = cs := by
  constructor
  · intro hvisible
    obtain ⟨ts, hts⟩ := exists_parsed cs
    refine (seen_eq_self_iff hts (m.text.length + 1) []).1 ?_
    rw [visible, m.read_eq htext hts] at hvisible
    obtain ⟨marked, hread, hdraw⟩ := ok_of_bind hvisible
    obtain ⟨seen, hseen, rfl⟩ := ok_of_map hread
    have hdrawn := text_of_draw hdraw
    exact ⟨seen, hseen, (List.cons.inj (List.append_cancel_left hdrawn)).2.symm⟩
  · rintro ⟨htagless, hshown⟩
    rw [m.visible_tagless htext htagless, hshown]

end Transplant.Terminal.Markup
