import Mathlib.Data.List.TakeWhile
import Transplant.Proofs.Command.Reading

/-!
# Command lines that are written out

Choices written out as a command line, each switch by its long name with its value in the next word, and read
back. A value may look like a switch itself; only the arguments need `--` in front of them.

## Main statements

* `read_flatMap_words`: switches that are written out are read back
* `read_line`: a line is read if the words behind its verb are
* `read_patchLine`: there is a line for every choice that a patch leaves
-/

namespace Transplant.Command

variable {disk : Disk} {cwd : Tree.Path}

/-! ## Switches that are written out -/

/-- A switch by its long name, with its value in the next word. -/
def Given.words (g : Given) : List String :=
  g.switch.long :: g.value.toList

/-- Whether the long name of a switch is read as one. -/
def Switch.WellNamed (s : Switch) : Prop :=
  Line.isSwitch s.long = true ∧ s.long ≠ "--" ∧ '=' ∉ s.long.toList

instance (s : Switch) : Decidable s.WellNamed :=
  inferInstanceAs (Decidable (_ ∧ _ ∧ _))

/-- All switches of the program are well named. -/
theorem wellNamed_of_mem {switch : Switch}
    (h : switch ∈ signature.switches ∨ ∃ v : Verb, switch ∈ v.signature.switches) : switch.WellNamed := by
  have hprogram : ∀ switch ∈ signature.switches, switch.WellNamed := by decide +kernel
  have hverbs : ∀ v ∈ Verb.all, ∀ switch ∈ v.signature.switches, switch.WellNamed := by decide +kernel
  rcases h with h | ⟨v, h⟩
  · exact hprogram switch h
  · exact hverbs v (by cases v <;> decide) switch h

/-- Whether a signature has a switch, with a value if the switch takes one. -/
structure Signature.Takes (s : Signature) (g : Given) : Prop where
  known : s.long? g.switch.long = some g.switch
  named : g.switch.WellNamed
  valued : g.value.isSome = g.switch.shape?.isSome

variable {s : Signature} {g : Given} {given : List Given} {rest : List String} {l : Line}

theorem splitValue_plain {word : String} (h : '=' ∉ word.toList) : Line.splitValue word.toList = (word, none) := by
  have hname : word.toList.takeWhile (· != '=') = word.toList := by
    rw [List.takeWhile_eq_self_iff]
    intro c hc
    rw [bne_iff_ne]
    rintro rfl
    exact h hc
  rw [Line.splitValue, hname, if_neg (Nat.lt_irrefl _), String.ofList_toList]

theorem readSwitch_long (hg : s.Takes g) :
    Line.readSwitch s g.switch.long.toList =
      .ok (if g.switch.shape?.isSome then { waiting := some (g.switch, g.switch.long) }
        else { given := [⟨g.switch, none⟩] }) := by
  rw [Line.readSwitch, splitValue_plain hg.named.2.2]
  dsimp only
  rw [hg.known]
  dsimp only
  cases g.switch.shape?.isSome <;> rfl

/-- A switch takes the next word as its value, whatever that word looks like. -/
theorem read_words_append (hg : s.Takes g) (h : Line.read s rest = .ok l) :
    Line.read s (g.words ++ rest) = .ok (l.following [g]) := by
  have hvalued := hg.valued
  rw [Given.words, List.cons_append, Line.read, if_neg (by simpa using hg.named.2.1), if_pos hg.named.1,
    readSwitch_long hg]
  obtain ⟨switch, value⟩ := g
  cases value with
  | none =>
    rw [if_neg (by simp [← hvalued])]
    change (Line.read s rest >>= fun l => .ok (l.following [⟨switch, none⟩])) = _
    rw [h]
    rfl
  | some value =>
    rw [if_pos (by simp [← hvalued])]
    change (Line.read s rest >>= fun l => .ok (l.following [⟨switch, some value⟩])) = _
    rw [h]
    rfl

theorem read_dashes (s : Signature) (words : List String) : Line.read s ("--" :: words) = .ok { words := words } := by
  rw [Line.read, if_pos (beq_self_eq_true _)]

/-- The words of the program end at a verb. -/
theorem read_verb (v : Verb) (words : List String) :
    Line.read signature (v.name :: words) = .ok { words := v.name :: words } := by
  have hgroup : signature.isGroup = true := rfl
  have hname : (v.name == "--") = false ∧ Line.isSwitch v.name = false := by
    cases v <;> decide +kernel
  rw [Line.read, if_neg (by simp [hname.1]), if_neg (by simp [hname.2]), if_pos hgroup]

/-- **Switches that are written out are read back.** -/
theorem read_flatMap_words (hgiven : ∀ g ∈ given, s.Takes g) (h : Line.read s rest = .ok l) :
    Line.read s (given.flatMap Given.words ++ rest) = .ok (l.following given) := by
  induction given with
  | nil => simpa [Line.following] using h
  | cons g given ih =>
    rw [List.flatMap_cons, List.append_assoc,
      read_words_append (hgiven g List.mem_cons_self) (ih fun g hg => hgiven g (List.mem_cons_of_mem _ hg))]
    simp [Line.following]

/-! ## Lines that are written out -/

/-- Whether a switch asks for something else than a page or the version. -/
def Switch.Works (s : Switch) : Prop :=
  s.effect ≠ .help ∧ s.effect ≠ .version

theorem stop?_eq_none (h : ∀ g ∈ l.given, g.switch.Works) : l.stop? = none := by
  rw [Line.stop?, List.findSome?_eq_none_iff]
  intro g hg
  obtain ⟨hhelp, hversion⟩ := h g hg
  split
  · exact absurd ‹_› hhelp
  · exact absurd ‹_› hversion
  · rfl

/-- A line is read if its switches work, and the values and the other words pass their checks. -/
theorem read_of_checked {left : List String} (hread : Line.read s rest = .ok l) (hworks : ∀ g ∈ l.given, g.switch.Works)
    (hvalues : ∀ g ∈ l.given, checkSwitch disk cwd l g.switch = .ok ())
    (harguments : checkArguments disk cwd s.arguments l.words = .ok left)
    (hleft : (left.isEmpty || s.isGroup) = true) : s.read disk cwd rest = .ok l := by
  have hchecks : s.read disk cwd rest = (l.given.forM fun g => checkSwitch disk cwd l g.switch) >>= fun _ =>
      checkArguments disk cwd s.arguments l.words >>= fun others =>
        if others.isEmpty || s.isGroup then .ok l else .error (.misuse (.extraWords others)) := by
    rw [Signature.read, hread, mapError_ok, bind_ok, stop?_eq_none hworks]
    rfl
  rw [hchecks, forM_eq_ok hvalues, bind_ok, harguments, bind_ok]
  exact if_pos hleft

/-! ## Switches by their names -/

/-- The switch of a signature with a long name. -/
def Signature.switch (s : Signature) (long : String) (h : (s.long? long).isSome = true) : Switch :=
  (s.long? long).get h

theorem Signature.switch_spec {long : String} (h : (s.long? long).isSome = true) :
    (s.switch long h).long = long ∧ s.switch long h ∈ s.switches := by
  have hfound : s.long? long = some (s.switch long h) := (Option.some_get h).symm
  exact ⟨eq_of_beq (List.find?_some (p := fun w : Switch => w.long == long) hfound), List.mem_of_find?_eq_some hfound⟩

theorem Signature.takes_switch {long : String} {value : Option String} (h : (s.long? long).isSome = true)
    (hnamed : ∀ switch ∈ s.switches, switch.WellNamed)
    (hvalued : value.isSome = (s.switch long h).shape?.isSome) : s.Takes ⟨s.switch long h, value⟩ := by
  obtain ⟨hlong, hmem⟩ := s.switch_spec h
  refine ⟨?_, hnamed _ hmem, hvalued⟩
  rw [hlong]
  exact (Option.some_get h).symm

theorem mem_flag {on : Bool} {flag : Given} : g ∈ (if on then [flag] else []) ↔ on = true ∧ g = flag := by
  cases on <;> simp

theorem values_append (given given' : List Given) (words : List String) (long : String) :
    Line.values ⟨given ++ given', words⟩ long =
      Line.values ⟨given, words⟩ long ++ Line.values ⟨given', words⟩ long := by
  simp [Line.values]

theorem values_map (switch : Switch) (values words : List String) (long : String) :
    Line.values ⟨values.map (⟨switch, some ·⟩), words⟩ long = if switch.long = long then values else [] := by
  split <;> simp [Line.values, List.filter_map, Function.comp_def, *]

theorem values_flag (on : Bool) (switch : Switch) (words : List String) (long : String) :
    Line.values ⟨if on then [⟨switch, none⟩] else [], words⟩ long = [] := by
  cases on with
  | false => rfl
  | true => by_cases h : switch.long = long <;> simp [Line.values, h]

/-! ## The line of the program -/

/-- The switches in front of a verb with their values. -/
def programGiven (config : Option String) (verbose : Bool) : List Given :=
  config.toList.map (⟨signature.switch "--config" (by decide), some ·⟩) ++
    if verbose then [⟨signature.switch "--verbose" (by decide), none⟩] else []

/-- The words of the program in front of a verb. -/
def programWords (config : Option String) (verbose : Bool) : List String :=
  config.toList.flatMap (fun file => ["--config", file]) ++ if verbose then ["--verbose"] else []

variable {config : Option String} {verbose : Bool}

theorem programWords_eq : programWords config verbose = (programGiven config verbose).flatMap Given.words := by
  cases verbose <;>
    simp [programWords, programGiven, Given.words, List.flatMap_map, (Signature.switch_spec _).1]

theorem forall_programGiven {P : Given → Prop}
    (hconfig : ∀ file ∈ config, P ⟨signature.switch "--config" (by decide), some file⟩)
    (hverbose : verbose = true → P ⟨signature.switch "--verbose" (by decide), none⟩) :
    ∀ g ∈ programGiven config verbose, P g := by
  intro g hg
  rw [programGiven, List.mem_append, List.mem_map, mem_flag] at hg
  rcases hg with ⟨file, hfile, rfl⟩ | ⟨hon, rfl⟩
  · exact hconfig file (Option.mem_toList.1 hfile)
  · exact hverbose hon

theorem value?_programGiven (words : List String) :
    Line.value? ⟨programGiven config verbose, words⟩ "--config" = config := by
  rw [Line.value?, programGiven, values_append, values_map, values_flag, (Signature.switch_spec _).1]
  cases config <;> rfl

theorem has_programGiven (words : List String) :
    Line.has ⟨programGiven config verbose, words⟩ "--verbose" = verbose := by
  cases verbose <;> simp [Line.has, programGiven, (Signature.switch_spec _).1]

/-- A line is read if the words behind its verb are. -/
theorem read_line {v : Verb} {words : List String} {own : Line}
    (hconfig : ∀ file ∈ config, ∃ entry, disk.examine cwd file = .ok entry)
    (hown : v.signature.read disk cwd words = .ok own) :
    Invocation.read disk cwd (programWords config verbose ++ v.name :: words) =
      .ok ⟨config, verbose, v.action own⟩ := by
  have hnamed : ∀ switch ∈ signature.switches, switch.WellNamed := fun switch h => wellNamed_of_mem (.inl h)
  have htakes : ∀ g ∈ programGiven config verbose, signature.Takes g :=
    forall_programGiven (fun _ _ => Signature.takes_switch _ hnamed rfl) fun _ => Signature.takes_switch _ hnamed rfl
  have hline : signature.read disk cwd (programWords config verbose ++ v.name :: words) =
      .ok ⟨programGiven config verbose, v.name :: words⟩ := by
    refine read_of_checked ?_ (forall_programGiven (fun _ _ => ⟨nofun, nofun⟩) fun _ => ⟨nofun, nofun⟩)
      (forall_programGiven ?_ ?_) rfl (Bool.or_true _)
    · rw [programWords_eq, read_flatMap_words htakes (read_verb v words), Line.following, List.append_nil]
    · intro _ _
      refine checkSwitch_eq_ok ?_
      rintro _ ⟨⟩ file hfile place
      rw [(Signature.switch_spec _).1, value?_programGiven] at hfile
      obtain ⟨entry, hentry⟩ := hconfig file hfile
      exact checkValue_path_iff.2 ⟨entry, hentry, trivial⟩
    · intro _
      refine checkSwitch_eq_ok ?_
      rintro _ ⟨⟩
  have hverb : verbOf disk cwd ⟨programGiven config verbose, v.name :: words⟩ = .ok (v, words) := by
    cases v <;> rfl
  rw [Invocation.read, if_neg (by simp), hline, mapError_ok, bind_ok, hverb, mapError_ok, bind_ok]
  dsimp only
  rw [hown, mapError_ok, bind_ok, value?_programGiven, has_programGiven]
  rfl

/-! ## The line of a patch -/

/-- The switches of a patch with their values. -/
def patchGiven (exclude : List String) (strip : Option String) (reverse : Bool) : List Given :=
  let s := Verb.patch.signature
  exclude.map (⟨s.switch "--exclude" (by decide), some ·⟩) ++
    strip.toList.map (⟨s.switch "--strip" (by decide), some ·⟩) ++
    if reverse then [⟨s.switch "--reverse" (by decide), none⟩] else []

variable {exclude : List String} {strip : Option String} {reverse : Bool}

/-- What holds of the switches of a patch is shown for each of them. -/
theorem forall_patchGiven {P : Given → Prop}
    (hexclude : ∀ pattern ∈ exclude, P ⟨Verb.patch.signature.switch "--exclude" (by decide), some pattern⟩)
    (hstrip : ∀ digits ∈ strip, P ⟨Verb.patch.signature.switch "--strip" (by decide), some digits⟩)
    (hreverse : reverse = true → P ⟨Verb.patch.signature.switch "--reverse" (by decide), none⟩) :
    ∀ g ∈ patchGiven exclude strip reverse, P g := by
  intro g hg
  rw [patchGiven, List.mem_append, List.mem_append, List.mem_map, List.mem_map, mem_flag] at hg
  rcases hg with (⟨pattern, hpattern, rfl⟩ | ⟨digits, hdigits, rfl⟩) | ⟨hon, rfl⟩
  · exact hexclude pattern hpattern
  · exact hstrip digits (Option.mem_toList.1 hdigits)
  · exact hreverse hon

theorem takes_patchGiven : ∀ g ∈ patchGiven exclude strip reverse, Verb.patch.signature.Takes g := by
  have hnamed : ∀ switch ∈ Verb.patch.signature.switches, switch.WellNamed :=
    fun switch h => wellNamed_of_mem (.inr ⟨.patch, h⟩)
  exact forall_patchGiven (fun _ _ => Signature.takes_switch _ hnamed rfl)
    (fun _ _ => Signature.takes_switch _ hnamed rfl) (fun _ => Signature.takes_switch _ hnamed rfl)

theorem works_patchGiven : ∀ g ∈ patchGiven exclude strip reverse, g.switch.Works :=
  forall_patchGiven (fun _ _ => ⟨nofun, nofun⟩) (fun _ _ => ⟨nofun, nofun⟩) (fun _ => ⟨nofun, nofun⟩)

theorem values_patchGiven (words : List String) (long : String) :
    Line.values ⟨patchGiven exclude strip reverse, words⟩ long =
      (if "--exclude" = long then exclude else []) ++ (if "--strip" = long then strip.toList else []) := by
  rw [patchGiven, values_append, values_append, values_map, values_map, values_flag, (Signature.switch_spec _).1,
    (Signature.switch_spec _).1, List.append_nil]

theorem value?_patchGiven (words : List String) :
    Line.value? ⟨patchGiven exclude strip reverse, words⟩ "--strip" = strip := by
  rw [Line.value?, values_patchGiven]
  cases strip <;> simp

theorem has_patchGiven (words : List String) :
    Line.has ⟨patchGiven exclude strip reverse, words⟩ "--reverse" = reverse := by
  cases reverse <;> simp [Line.has, patchGiven, (Signature.switch_spec _).1]

/-- The words of a patch behind its verb. -/
def patchWords (target diffFile : String) (exclude : List String) (strip : Option String) (reverse : Bool) :
    List String :=
  exclude.flatMap (fun pattern => ["--exclude", pattern]) ++
    strip.toList.flatMap (fun digits => ["--strip", digits]) ++
    (if reverse then ["--reverse"] else []) ++ ["--", target, diffFile]

theorem patchWords_eq (target diffFile : String) :
    patchWords target diffFile exclude strip reverse =
      (patchGiven exclude strip reverse).flatMap Given.words ++ ["--", target, diffFile] := by
  cases reverse <;>
    simp [patchWords, patchGiven, Given.words, List.flatMap_map, (Signature.switch_spec _).1]

theorem read_patchWords {target diffFile : String} {contents : List UInt8}
    (hstrip : ∀ digits ∈ strip, ∃ n, Numeral.parse digits = .ok n)
    (htarget : disk.examine cwd target = .ok .directory) (hfile : disk.examine cwd diffFile = .ok (.file contents)) :
    Verb.patch.signature.read disk cwd (patchWords target diffFile exclude strip reverse) =
      .ok ⟨patchGiven exclude strip reverse, [target, diffFile]⟩ := by
  have hread : Line.read Verb.patch.signature (patchWords target diffFile exclude strip reverse) =
      .ok ⟨patchGiven exclude strip reverse, [target, diffFile]⟩ := by
    rw [patchWords_eq, read_flatMap_words takes_patchGiven (read_dashes _ _), Line.following, List.append_nil]
  have hchecked : checkArguments disk cwd Verb.patch.signature.arguments [target, diffFile] = .ok [] := by
    have hfirst (place : String) : checkValue disk cwd place (.path .directory true) target = .ok () :=
      checkValue_path_iff.2 ⟨_, htarget, rfl⟩
    have hsecond (place : String) : checkValue disk cwd place (.path .file true) diffFile = .ok () :=
      checkValue_path_iff.2 ⟨_, hfile, contents, rfl⟩
    exact (checkArguments_cons hfirst).trans (checkArguments_cons hsecond)
  refine read_of_checked hread works_patchGiven (forall_patchGiven ?_ ?_ ?_) hchecked rfl
  · intro pattern _
    refine checkSwitch_eq_ok ?_
    rintro _ ⟨⟩ value - place
    rfl
  · intro digits _
    refine checkSwitch_eq_ok ?_
    rintro _ ⟨⟩ value hvalue place
    rw [(Signature.switch_spec _).1, value?_patchGiven] at hvalue
    obtain ⟨n, hn⟩ := hstrip value hvalue
    exact checkValue_number hn place
  · intro _
    refine checkSwitch_eq_ok ?_
    rintro _ ⟨⟩

/-- **Every choice can be asked for.** -/
theorem read_patchLine {target diffFile : String} {contents : List UInt8}
    (hconfig : ∀ file ∈ config, ∃ entry, disk.examine cwd file = .ok entry)
    (hstrip : ∀ digits ∈ strip, ∃ n, Numeral.parse digits = .ok n)
    (htarget : disk.examine cwd target = .ok .directory) (hfile : disk.examine cwd diffFile = .ok (.file contents)) :
    Invocation.read disk cwd
        (programWords config verbose ++ "patch" :: patchWords target diffFile exclude strip reverse) =
      .ok ⟨config, verbose, .patch target diffFile exclude
        (strip.bind fun digits => (Numeral.parse digits).toOption) reverse⟩ := by
  have haction : Verb.patch.action ⟨patchGiven exclude strip reverse, [target, diffFile]⟩ =
      .patch target diffFile exclude (strip.bind fun digits => (Numeral.parse digits).toOption) reverse := by
    rw [Verb.action, values_patchGiven, value?_patchGiven, has_patchGiven]
    simp
  rw [← haction]
  exact read_line hconfig (read_patchWords hstrip htarget hfile)

end Transplant.Command
