import Transplant.Log.Template
import Transplant.Proofs.Log.Tag
import Transplant.Proofs.Outcome

/-!
# Parts of templates

How a template is made up of its parts (`Part.Parted`, which says the same as reading it: `Part.ofTemplate_eq_ok_iff`).
Dropping plain tags drops them from the runs of text and leaves the slots as they are, if these hold none
(`Part.ofTemplate_untagged`).
-/

namespace Transplant.Log

/-- Whether no plain tag stands in a slot. -/
def Slot.IsBare (s : Slot) : Prop :=
  untagged s.name = s.name ∧ untagged s.description = s.description

instance (s : Slot) : Decidable s.IsBare :=
  inferInstanceAs (Decidable (_ ∧ _))

section

variable {cs rest : List Char} {c : Char}

theorem mem_of_mem_untagged (h : c ∈ untagged cs) : c ∈ cs := by
  induction cs using untagged_induction with
  | nil => exact h
  | tag cs after hplain ih =>
    rw [untagged_of_plain hplain] at h
    obtain ⟨isClosing, name, -, rfl⟩ := afterPlain?_eq_some_iff.1 hplain
    exact List.mem_append_right _ (ih h)
  | char d rest hplain ih =>
    rw [untagged_cons hplain] at h
    rcases List.mem_cons.1 h with rfl | h
    · exact List.mem_cons_self
    · exact List.mem_cons_of_mem _ (ih h)

/-- Whether a character can only be the first one of a plain tag. -/
def Separates (c : Char) : Prop :=
  isSmallLetter c = false ∧ c ≠ '/' ∧ c ≠ '>'

instance (c : Char) : Decidable (Separates c) :=
  inferInstanceAs (Decidable (_ ∧ _))

theorem Separates.not_mem_tail (h : Separates c) (isClosing : Bool) {name : List Char}
    (hname : isPlainName name = true) : c ∉ (Mark.tagText isClosing name).tail := by
  obtain ⟨hsmall, hslash, hend⟩ := h
  intro hmem
  rcases List.mem_append.1 hmem with hmem | hmem
  · rcases List.mem_append.1 hmem with hmem | hmem
    · split at hmem
      · exact hslash (List.mem_singleton.1 hmem)
      · cases hmem
    · rw [(isPlainName_iff.1 hname).2 c hmem] at hsmall
      cases hsmall
  · exact hend (List.mem_singleton.1 hmem)

theorem untagged_append (h : Separates c) (cs rest : List Char) :
    untagged (cs ++ c :: rest) = untagged cs ++ untagged (c :: rest) := by
  induction cs using untagged_induction with
  | nil => rfl
  | tag cs after hplain ih =>
    obtain ⟨isClosing, name, hname, rfl⟩ := afterPlain?_eq_some_iff.1 hplain
    have hplain' : afterPlain? (Mark.tagText isClosing name ++ after ++ c :: rest) = some (after ++ c :: rest) :=
      afterPlain?_eq_some_iff.2 ⟨isClosing, name, hname, List.append_assoc ..⟩
    rw [untagged_of_plain hplain', untagged_of_plain hplain, ih]
  | char d front hplain ih =>
    have hnone : afterPlain? (d :: front ++ c :: rest) = none := by
      rw [Option.eq_none_iff_forall_ne_some]
      intro after hafter
      obtain ⟨isClosing, name, hname, heq⟩ := afterPlain?_eq_some_iff.1 hafter
      -- a tag that went past `c` would hold it, and one that ends before was there already
      rcases List.append_eq_append_iff.1 heq with ⟨more, htag, hmore⟩ | ⟨more, hfront, -⟩
      · cases more with
        | nil =>
          rw [List.append_nil] at htag
          have := afterPlain?_eq_some_iff.2 ⟨isClosing, name, hname, (htag.symm.trans (List.append_nil _).symm)⟩
          rw [hplain] at this
          cases this
        | cons x more =>
          obtain ⟨rfl, -⟩ := List.cons.inj hmore
          exact h.not_mem_tail isClosing hname (by rw [htag]; simp)
      · have := afterPlain?_eq_some_iff.2 ⟨isClosing, name, hname, hfront⟩
        rw [hplain] at this
        cases this
    rw [List.cons_append] at hnone ⊢
    rw [untagged_cons hnone, untagged_cons hplain, ih, List.cons_append]

theorem untagged_parting (h : Separates c) (hc : c ≠ '<') (cs rest : List Char) :
    untagged (cs ++ c :: rest) = untagged cs ++ c :: untagged rest := by
  rw [untagged_append h, untagged_cons (afterPlain?_of_ne hc rest)]

theorem untagged_singleton (c : Char) : untagged [c] = [c] := by
  refine untagged_cons (Option.eq_none_iff_forall_ne_some.2 fun after hafter => ?_)
  obtain ⟨isClosing, name, -, heq⟩ := afterPlain?_eq_some_iff.1 hafter
  have htag := Mark.length_tagText isClosing name
  have hlength := congrArg List.length heq
  rw [List.length_singleton, List.length_append] at hlength
  omega

end

namespace Part

/-! ## Slots -/

/-- Whether a character ends the name of a slot. -/
def EndsName (c : Char) : Prop :=
  c = '\x7d' ∨ c = ':' ∨ c = '!'

theorem EndsName.separates {c : Char} (h : EndsName c) : Separates c ∧ c ≠ '<' := by
  rcases h with rfl | rfl | rfl <;> exact ⟨by decide, by decide⟩

section

variable {cs rest name description : List Char} {c mark : Char} {bracketed : Bool} {depth : Nat}

theorem readName_of_ends (h : EndsName c) (rest : List Char) : readName false (c :: rest) = .ok ([], c, rest) := by
  rcases h with rfl | rfl | rfl <;> rfl

theorem readName_cases (bracketed : Bool) (c : Char) :
    (bracketed = false ∧ EndsName c) ∨ (bracketed = false ∧ c = '\x7b') ∨
      ∃ bracketed', ∀ rest, readName bracketed (c :: rest) =
        (readName bracketed' rest).map fun (name, mark, rest) => (c :: name, mark, rest) := by
  cases bracketed with
  | true => exact .inr (.inr ⟨_, fun rest => rfl⟩)
  | false =>
    by_cases hopen : c = '\x7b'
    · exact .inr (.inl ⟨rfl, hopen⟩)
    by_cases hends : EndsName c
    · exact .inl ⟨rfl, hends⟩
    obtain ⟨hclose, hcolon, hmark⟩ : c ≠ '\x7d' ∧ c ≠ ':' ∧ c ≠ '!' := by simpa [EndsName] using hends
    refine .inr (.inr ⟨c == '[', fun rest => ?_⟩)
    simp [readName, hopen, hclose, hcolon, hmark]

/-- The name of a slot is read as the same one in front of any other mark. -/
theorem readName_ok (h : readName bracketed cs = .ok (name, mark, rest)) :
    cs = name ++ mark :: rest ∧ EndsName mark ∧
      ∀ mark', EndsName mark' → ∀ other, readName bracketed (name ++ mark' :: other) = .ok (name, mark', other) := by
  induction cs generalizing bracketed name with
  | nil => cases h
  | cons c cs ih =>
    rcases readName_cases bracketed c with ⟨rfl, hends⟩ | ⟨rfl, rfl⟩ | ⟨bracketed', hmore⟩
    · rw [readName_of_ends hends] at h
      cases h
      exact ⟨rfl, hends, fun mark' hmark' other => readName_of_ends hmark' other⟩
    · cases h
    · rw [hmore] at h
      obtain ⟨⟨name, mark, rest⟩, hread, heq⟩ := ok_of_map h
      cases heq
      obtain ⟨rfl, hends, hother⟩ := ih hread
      refine ⟨rfl, hends, fun mark' hmark' other => ?_⟩
      rw [List.cons_append, hmore, hother mark' hmark' other]
      rfl

theorem readDescription_cases (depth : Nat) (c : Char) :
    (depth = 0 ∧ c = '\x7d') ∨
      ∃ depth', ∀ rest, readDescription depth (c :: rest) =
        (readDescription depth' rest).map fun (cs, rest) => (c :: cs, rest) := by
  by_cases hopen : c = '\x7b'
  · exact .inr ⟨depth + 1, fun rest => by simp [readDescription, hopen]⟩
  by_cases hclose : c = '\x7d'
  · cases depth with
    | zero => exact .inl ⟨rfl, hclose⟩
    | succ depth => exact .inr ⟨depth, fun rest => by simp [readDescription, hclose]⟩
  · exact .inr ⟨depth, fun rest => by simp [readDescription, hopen, hclose]⟩

theorem readDescription_ok (h : readDescription depth cs = .ok (description, rest)) :
    cs = description ++ '\x7d' :: rest ∧
      ∀ other, readDescription depth (description ++ '\x7d' :: other) = .ok (description, other) := by
  induction cs generalizing depth description with
  | nil => cases h
  | cons c cs ih =>
    rcases readDescription_cases depth c with ⟨rfl, rfl⟩ | ⟨depth', hmore⟩
    · cases h
      exact ⟨rfl, fun other => rfl⟩
    · rw [hmore] at h
      obtain ⟨⟨description, rest⟩, hread, heq⟩ := ok_of_map h
      cases heq
      obtain ⟨rfl, hother⟩ := ih hread
      refine ⟨rfl, fun other => ?_⟩
      rw [List.cons_append, hmore, hother other]
      rfl

end

end Part

/-- A slot as it is written behind its opening brace, with or without a colon. -/
def Slot.source (s : Slot) (colon : Bool) : List Char :=
  s.name ++ ((s.conversion.elim [] fun c => ['!', c]) ++ ((if colon then ':' :: s.description else []) ++ ['\x7d']))

/-- Whether a slot is read back where it is written. -/
structure Slot.Readable (s : Slot) (colon : Bool) : Prop where
  name : ∀ mark, Part.EndsName mark → ∀ rest, Part.readName false (s.name ++ mark :: rest) = .ok (s.name, mark, rest)
  description : ∀ rest, Part.readDescription 0 (s.description ++ '\x7d' :: rest) = .ok (s.description, rest)
  undescribed : colon = false → s.description = []

namespace Part

section

variable {cs rest : List Char} {s : Slot} {colon : Bool}

theorem readSlot_ok (h : readSlot cs = .ok (s, rest)) : ∃ colon, s.Readable colon ∧ cs = s.source colon ++ rest := by
  obtain ⟨⟨name, mark, behind⟩, hname, hbehind⟩ := ok_of_bind h
  clear h
  dsimp only at hbehind
  obtain ⟨rfl, hends, hother⟩ := readName_ok hname
  -- behind its name and its conversion a slot ends, or is described up to its end
  have hbare (conversion : Option Char) : Slot.Readable ⟨name, conversion, []⟩ false :=
    ⟨hother, fun rest => rfl, fun _ => rfl⟩
  have hdescribed (conversion : Option Char) (cs : List Char)
      (h : ((readDescription 0 cs).map fun (description, rest) =>
        ((⟨name, conversion, description⟩ : Slot), rest)) = .ok (s, rest)) :
      s.Readable true ∧ s.name = name ∧ s.conversion = conversion ∧ cs = s.description ++ '\x7d' :: rest := by
    obtain ⟨⟨description, rest⟩, hread, heq⟩ := ok_of_map h
    cases heq
    obtain ⟨rfl, hagain⟩ := readDescription_ok hread
    exact ⟨⟨hother, hagain, nofun⟩, rfl, rfl, rfl⟩
  rcases hends with rfl | rfl | rfl
  · cases hbehind
    exact ⟨false, hbare none, by simp [Slot.source]⟩
  · obtain ⟨hreadable, rfl, hconversion, rfl⟩ := hdescribed none behind hbehind
    exact ⟨true, hreadable, by simp [Slot.source, hconversion]⟩
  · rw [if_neg (by decide), if_neg (by decide)] at hbehind
    split at hbehind
    · cases hbehind
    · cases hbehind
    · cases hbehind
      exact ⟨false, hbare (some _), by simp [Slot.source]⟩
    · obtain ⟨hreadable, rfl, hconversion, rfl⟩ := hdescribed _ _ hbehind
      exact ⟨true, hreadable, by simp [Slot.source, hconversion]⟩
    · cases hbehind

theorem readSlot_source (h : s.Readable colon) (rest : List Char) :
    readSlot (s.source colon ++ rest) = .ok (s, rest) := by
  obtain ⟨name, conversion, description⟩ := s
  obtain ⟨hname, hdescription, hundescribed⟩ := h
  dsimp only at hname hdescription hundescribed
  have hclose := hname '\x7d' (.inl rfl)
  have hcolon := hname ':' (.inr (.inl rfl))
  have hmark := hname '!' (.inr (.inr rfl))
  cases conversion <;> cases colon <;>
    simp only [Slot.source, Option.elim, List.append_assoc, List.nil_append, List.cons_append, Bool.false_eq_true,
      if_true, if_false]
  case none.false =>
    obtain rfl := hundescribed rfl
    rw [readSlot, hclose]
    rfl
  case none.true =>
    rw [readSlot, hcolon]
    exact congrArg (Except.map _) (hdescription rest)
  case some.false =>
    obtain rfl := hundescribed rfl
    rw [readSlot, hmark]
    rfl
  case some.true =>
    rw [readSlot, hmark]
    exact congrArg (Except.map _) (hdescription rest)

theorem source_ne_nil (s : Slot) (colon : Bool) (rest : List Char) : s.source colon ++ rest ≠ [] := by
  simp [Slot.source]

theorem head_source (h : s.Readable colon) : (s.source colon ++ rest).head? ≠ some '\x7b' := by
  intro hhead
  obtain ⟨tail, htail⟩ := List.head?_eq_some_iff.1 hhead
  have hread := readSlot_source h rest
  rw [htail] at hread
  cases hread

/-- **A slot without plain tags stays** where plain tags are dropped. -/
theorem untagged_source (h : s.IsBare) (colon : Bool) (rest : List Char) :
    untagged (s.source colon ++ rest) = s.source colon ++ untagged rest := by
  obtain ⟨name, conversion, description⟩ := s
  obtain ⟨hname, hdescription⟩ := h
  dsimp only at hname hdescription
  have hends {mark : Char} (h : EndsName mark) (cs rest : List Char) :
      untagged (cs ++ mark :: rest) = untagged cs ++ mark :: untagged rest :=
    untagged_parting h.separates.1 h.separates.2 cs rest
  have hletter {mark : Char} (h : EndsName mark) (c : Char) (rest : List Char) :
      untagged (c :: mark :: rest) = c :: mark :: untagged rest := by
    have hparted := hends h [c] rest
    rwa [untagged_singleton] at hparted
  have hclose : EndsName '\x7d' := .inl rfl
  have hcolon : EndsName ':' := .inr (.inl rfl)
  have hmark : EndsName '!' := .inr (.inr rfl)
  cases conversion <;> cases colon <;>
    simp only [Slot.source, Option.elim, List.append_assoc, List.nil_append, List.cons_append, Bool.false_eq_true,
      if_true, if_false]
  case none.false => rw [hends hclose, hname]
  case none.true => rw [hends hcolon, hends hclose, hname, hdescription]
  case some.false c => rw [hends hmark, hletter hclose, hname]
  case some.true c => rw [hends hmark, hletter hcolon, hends hclose, hname, hdescription]

end

/-! ## Parts -/

def IsBrace (c : Char) : Prop :=
  c = '\x7b' ∨ c = '\x7d'

/-- A run of text as a part. An empty one is none. -/
def ofRun (cs : List Char) : List Part :=
  if cs.isEmpty then [] else [.text cs]

/-- Whether a template is made up of some parts. -/
inductive Parted : List Char → List Part → Prop where
  | run {run : List Char} (hrun : ∀ c ∈ run, ¬ IsBrace c) : Parted run (ofRun run)
  | brace {run rest : List Char} {c : Char} {parts : List Part} (hrun : ∀ c ∈ run, ¬ IsBrace c) (hc : IsBrace c)
    (hrest : Parted rest parts) : Parted (run ++ c :: c :: rest) (.text (run ++ [c]) :: parts)
  | slot {run rest : List Char} {s : Slot} {colon : Bool} {parts : List Part} (hrun : ∀ c ∈ run, ¬ IsBrace c)
    (hs : s.Readable colon) (hrest : Parted rest parts) :
    Parted (run ++ '\x7b' :: (s.source colon ++ rest)) (ofRun run ++ .slot s :: parts)

section

variable {cs run rest : List Char} {c : Char} {parts : List Part} {fuel : Nat}

theorem takeWhile_run (hrun : ∀ c ∈ run, ¬ IsBrace c) (rest : List Char) (hrest : ∀ c ∈ rest.head?, IsBrace c) :
    (run ++ rest).takeWhile (fun c => c != '\x7b' && c != '\x7d') = run := by
  have hstays : ∀ c ∈ run, (c != '\x7b' && c != '\x7d') = true := by simpa [IsBrace] using hrun
  rw [List.takeWhile_append_of_pos hstays]
  cases rest with
  | nil => exact List.append_nil _
  | cons c rest =>
    have hends : (c != '\x7b' && c != '\x7d') = false := by
      rcases hrest c rfl with rfl | rfl <;> rfl
    rw [List.takeWhile_cons_of_neg (by simp [hends]), List.append_nil]

theorem readAll_run (hrun : ∀ c ∈ run, ¬ IsBrace c) : readAll (fuel + 1) run = .ok (ofRun run) := by
  have htake := takeWhile_run hrun [] nofun
  rw [List.append_nil] at htake
  rw [readAll]
  simp only [htake, List.drop_length]
  rfl

theorem readAll_brace (hrun : ∀ c ∈ run, ¬ IsBrace c) (hc : IsBrace c) (rest : List Char) :
    readAll (fuel + 1) (run ++ c :: c :: rest) = (readAll fuel rest).map (.text (run ++ [c]) :: ·) := by
  have htake := takeWhile_run hrun (c :: c :: rest) (by simpa using hc)
  rw [readAll]
  simp only [htake, List.drop_left]
  rcases hc with rfl | rfl <;> rfl

theorem readAll_slot (hrun : ∀ c ∈ run, ¬ IsBrace c) (hne : rest ≠ []) (hhead : rest.head? ≠ some '\x7b') :
    readAll (fuel + 1) (run ++ '\x7b' :: rest) =
      readSlot rest >>= fun (s, rest) => (readAll fuel rest).map fun parts => ofRun run ++ .slot s :: parts := by
  have htake := takeWhile_run hrun ('\x7b' :: rest) (by simp [IsBrace])
  obtain ⟨c, rest, rfl⟩ := List.exists_cons_of_ne_nil hne
  have hc : c ≠ '\x7b' := fun heq => hhead (congrArg some heq)
  rw [readAll]
  simp only [htake, List.drop_left]
  split <;> rename_i heq <;> cases heq
  · exact absurd rfl hc
  · rfl

theorem readAll_single (fuel : Nat) (hrun : ∀ c ∈ run, ¬ IsBrace c) (hhead : rest.head? ≠ some c)
    (hc : c = '\x7d' ∨ c = '\x7b' ∧ rest = []) :
    ∃ why, readAll (fuel + 1) (run ++ c :: rest) = .error why := by
  have htake := takeWhile_run hrun (c :: rest) (by simpa [IsBrace] using hc.symm.imp_left And.left)
  rw [readAll]
  simp only [htake, List.drop_left]
  rcases hc with rfl | ⟨rfl, rfl⟩
  · split <;> rename_i heq <;> cases heq
    · exact absurd rfl hhead
    · exact ⟨_, rfl⟩
    · exact ⟨_, rfl⟩
    · contradiction
  · exact ⟨_, rfl⟩

theorem exists_run (cs : List Char) :
    ∃ run rest, cs = run ++ rest ∧ (∀ c ∈ run, ¬ IsBrace c) ∧ ∀ c ∈ rest.head?, IsBrace c := by
  induction cs with
  | nil => exact ⟨[], [], rfl, nofun, nofun⟩
  | cons c cs ih =>
    by_cases hc : IsBrace c
    · exact ⟨[], c :: cs, rfl, nofun, by simpa using hc⟩
    · obtain ⟨run, rest, rfl, hrun, hrest⟩ := ih
      exact ⟨c :: run, rest, rfl, by simpa [hc] using hrun, hrest⟩

theorem parted_of_readAll (h : readAll fuel cs = .ok parts) (hfuel : cs.length ≤ fuel) : Parted cs parts := by
  induction fuel generalizing cs parts with
  | zero =>
    obtain rfl := List.eq_nil_of_length_eq_zero (Nat.le_zero.1 hfuel)
    cases h
    exact .run nofun
  | succ fuel ih =>
    obtain ⟨run, rest, rfl, hrun, hrest⟩ := exists_run cs
    rw [List.length_append] at hfuel
    cases rest with
    | nil =>
      rw [List.append_nil, readAll_run hrun] at h
      cases h
      rw [List.append_nil]
      exact .run hrun
    | cons c rest =>
      have hc : IsBrace c := hrest c rfl
      rw [List.length_cons] at hfuel
      by_cases hdouble : rest.head? = some c
      · obtain ⟨rest, rfl⟩ := List.head?_eq_some_iff.1 hdouble
        rw [List.length_cons] at hfuel
        rw [readAll_brace hrun hc] at h
        obtain ⟨parts, hparts, rfl⟩ := ok_of_map h
        exact .brace hrun hc (ih hparts (by omega))
      by_cases hopen : c = '\x7b' ∧ rest ≠ []
      · obtain ⟨rfl, hne⟩ := hopen
        rw [readAll_slot hrun hne hdouble] at h
        obtain ⟨⟨s, behind⟩, hs, h⟩ := ok_of_bind h
        obtain ⟨parts, hparts, rfl⟩ := ok_of_map h
        obtain ⟨colon, hreadable, rfl⟩ := readSlot_ok hs
        rw [List.length_append] at hfuel
        exact .slot hrun hreadable (ih hparts (by omega))
      · have hsingle : c = '\x7d' ∨ c = '\x7b' ∧ rest = [] := by
          rcases hc with rfl | rfl
          · exact .inr ⟨rfl, by simpa using hopen⟩
          · exact .inl rfl
        obtain ⟨why, hwhy⟩ := readAll_single fuel hrun hdouble hsingle
        rw [hwhy] at h
        cases h

theorem Parted.readAll_eq (h : Parted cs parts) (hfuel : cs.length ≤ fuel) : readAll fuel cs = .ok parts := by
  induction h generalizing fuel with
  | @run run hrun =>
    cases fuel with
    | zero =>
      obtain rfl := List.eq_nil_of_length_eq_zero (Nat.le_zero.1 hfuel)
      rfl
    | succ fuel => exact readAll_run hrun
  | @brace run rest c parts hrun hc hrest ih =>
    simp only [List.length_append, List.length_cons] at hfuel
    obtain ⟨fuel, rfl⟩ : ∃ n, fuel = n + 1 := ⟨fuel - 1, by omega⟩
    rw [readAll_brace hrun hc, ih (by omega)]
    rfl
  | @slot run rest s colon parts hrun hs hrest ih =>
    simp only [List.length_append, List.length_cons] at hfuel
    obtain ⟨fuel, rfl⟩ : ∃ n, fuel = n + 1 := ⟨fuel - 1, by omega⟩
    rw [readAll_slot hrun (source_ne_nil s colon rest) (head_source hs), readSlot_source hs, bind_ok]
    dsimp only
    rw [ih (by omega)]
    rfl

theorem ofTemplate_eq_ok_iff : ofTemplate cs = .ok parts ↔ Parted cs parts :=
  ⟨fun h => parted_of_readAll h (Nat.le_refl _), fun h => h.readAll_eq (Nat.le_refl _)⟩

/-! ## Without plain tags -/

/-- A part without its plain tags. -/
def untagged : Part → List Part
  | .text cs => ofRun (Log.untagged cs)
  | .slot s => [.slot s]

theorem flatMap_untagged_ofRun (run : List Char) : (ofRun run).flatMap untagged = ofRun (Log.untagged run) := by
  cases run with
  | nil => rfl
  | cons c run => exact List.flatMap_singleton _ _

theorem IsBrace.separates (h : IsBrace c) : Separates c ∧ c ≠ '<' := by
  rcases h with rfl | rfl <;> exact ⟨by decide, by decide⟩

theorem not_isBrace_of_mem_untagged (hrun : ∀ c ∈ run, ¬ IsBrace c) : ∀ c ∈ Log.untagged run, ¬ IsBrace c :=
  fun c hc => hrun c (mem_of_mem_untagged hc)

/-- **Dropping plain tags drops them part by part**, if there are none in slots. -/
theorem Parted.untagged (h : Parted cs parts) (hbare : ∀ s, .slot s ∈ parts → s.IsBare) :
    Parted (Log.untagged cs) (parts.flatMap Part.untagged) := by
  induction h with
  | @run run hrun =>
    rw [flatMap_untagged_ofRun]
    exact .run (not_isBrace_of_mem_untagged hrun)
  | @brace run rest c parts hrun hc hrest ih =>
    have hlast : Part.untagged (.text (run ++ [c])) = [.text (Log.untagged run ++ [c])] := by
      rw [Part.untagged, untagged_parting hc.separates.1 hc.separates.2, untagged_nil]
      simp [ofRun]
    rw [untagged_parting hc.separates.1 hc.separates.2, untagged_cons (afterPlain?_of_ne hc.separates.2 rest),
      List.flatMap_cons, hlast]
    exact .brace (not_isBrace_of_mem_untagged hrun) hc (ih fun s hs => hbare s (List.mem_cons_of_mem _ hs))
  | @slot run rest s colon parts hrun hs hrest ih =>
    have hkept : s.IsBare := hbare s (List.mem_append_right _ List.mem_cons_self)
    have hbrace : IsBrace '\x7b' := .inl rfl
    rw [untagged_parting hbrace.separates.1 hbrace.separates.2, untagged_source hkept, List.flatMap_append,
      flatMap_untagged_ofRun]
    exact .slot (not_isBrace_of_mem_untagged hrun) hs
      (ih fun s hs => hbare s (List.mem_append_right _ (List.mem_cons_of_mem _ hs)))

end

end Part

end Transplant.Log
