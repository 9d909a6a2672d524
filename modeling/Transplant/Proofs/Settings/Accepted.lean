import Transplant.Proofs.Settings.Normal
import Transplant.Proofs.Tree.Patch
import Transplant.Proofs.Workflow.Selection

/-!
# Accepted settings do not fail late

A run takes the mode, the default author and the baseline from its settings, and a replay the number of leading
components and the time limit. Each of them is looked at again there, and none is refused.

Main statement: `accepted_settings_run`, which also follows the mode and the author back to the texts that were
supplied, and compares a mode in the settings with one that an engine is asked for.
-/

namespace Transplant.Settings

open Schema
open Transplant.Workflow

/-! ## What was supplied -/

/-- The entries that data has for a section. -/
def sectionEntries (d : Data) (name : String) : List (Data × Data) :=
  match d.opened with
  | .map entries =>
    match (Data.lookup entries name).map Data.opened with
    | some (.map fields) => fields
    | _ => []
  | _ => []

/-- The text that data has for a field of a section. -/
def suppliedText? (d : Data) (name field : String) : Option String :=
  (Data.lookup (sectionEntries d name) field).bind fun value => (readText value).toOption

/-- A section that passes does so as the mapping of its entries, and one that was left out as an empty one. -/
theorem check_sectionEntries {α : Type} {d : Data} {entries : List (Data × Data)} {name : String}
    {check : Data → Checked α} {default a : α} (hd : d.opened = .map entries)
    (hopened : ∀ value b, check value = .ok b →
      ∃ fields, value.opened = .map fields ∧ check (.map fields) = .ok b)
    (hdefault : check (.map []) = .ok default) (h : field entries name (some default) check = .ok a) :
    check (.map (sectionEntries d name)) = .ok a := by
  rw [sectionEntries, hd]
  dsimp only
  rcases field_eq_ok h with ⟨value, hvalue, hcheck⟩ | ⟨hnone, hleft⟩
  · obtain ⟨fields, hfields, hcheck⟩ := hopened value a hcheck
    rw [hvalue, Option.map_some, hfields]
    exact hcheck
  · cases hleft
    rw [hnone]
    exact hdefault

theorem suppliedText?_of_lookup {d value : Data} {name field s : String}
    (hvalue : Data.lookup (sectionEntries d name) field = some value) (hread : readText value = .ok s) :
    suppliedText? d name field = some s := by
  rw [suppliedText?, hvalue, Option.bind_some, hread]
  rfl

theorem suppliedText?_of_no_lookup {d : Data} {name field : String}
    (hnone : Data.lookup (sectionEntries d name) field = none) : suppliedText? d name field = none := by
  rw [suppliedText?, hnone, Option.bind_none]

/-- The mode of accepted settings has the name that was supplied, in upper case. -/
theorem name_mode_of_ofData {d : Data} {s : Settings} (h : ofData d = .ok s) :
    s.workflow.mode.name = Text.upper ((suppliedText? d "workflow" "mode").getD "SQUASH") := by
  obtain ⟨entries, hentries, hread⟩ := record_eq_ok (report_eq_ok.1 h)
  obtain ⟨w, a, t, l, -, hw, -, -, -, -, rfl⟩ := Checked.map5_eq_ok.1 hread
  have hsection : Workflow.check (.map (sectionEntries d "workflow")) = .ok w :=
    check_sectionEntries hentries (fun _ _ => opened_of_record_eq_ok) rfl hw
  obtain ⟨_, ⟨⟩, hread⟩ := record_eq_ok hsection
  obtain ⟨mode, baseline, message, hmode, -, -, rfl⟩ := Checked.map3_eq_ok.1 hread
  rcases field_eq_ok hmode with ⟨value, hvalue, hcheck⟩ | ⟨hnone, hdefault⟩
  · obtain ⟨text, htext, hname⟩ := checkMode_eq_ok.1 hcheck
    rw [suppliedText?_of_lookup hvalue htext]
    exact Transplant.Workflow.ofName?_eq_some_iff.1 hname
  · cases hdefault
    rw [suppliedText?_of_no_lookup hnone]
    exact (Transplant.Workflow.upper_name .squash).symm

/-- The default author of accepted settings is the one that is read from the identity that was supplied. -/
theorem parse?_defaultAuthor_of_ofData {d : Data} {s : Settings} (h : ofData d = .ok s) :
    Author.parse? ((suppliedText? d "authoring" "default_author").getD "Tree Migrate <migrate@localhost>") =
      some s.authoring.defaultAuthor := by
  obtain ⟨entries, hentries, hread⟩ := record_eq_ok (report_eq_ok.1 h)
  obtain ⟨w, a, t, l, -, -, ha, -, -, -, rfl⟩ := Checked.map5_eq_ok.1 hread
  have hsection : Authoring.check (.map (sectionEntries d "authoring")) = .ok a :=
    check_sectionEntries hentries (fun _ _ => opened_of_record_eq_ok) rfl ha
  obtain ⟨_, ⟨⟩, hread⟩ := record_eq_ok hsection
  obtain ⟨author, hauthor, rfl⟩ := Checked.map_eq_ok.1 hread
  rcases field_eq_ok hauthor with ⟨value, hvalue, hcheck⟩ | ⟨hnone, hdefault⟩
  · obtain ⟨text, htext, hparse⟩ := checkIdentity_eq_ok.1 hcheck
    rw [suppliedText?_of_lookup hvalue htext]
    exact hparse
  · cases hdefault
    rw [suppliedText?_of_no_lookup hnone]
    exact Author.parse?_text Authoring.normal_default

/-! ## Running -/

/-- What comes of settings in a run, whoever the helper is: the engine gets past the selection of a mode, and a
squash makes its call with an author that is found. A baseline in force is not blank. A replay with the number of
leading components in the settings is not refused, and its process has some time. -/
structure Runs (s : Settings) (m : Mode) (author : Author) : Prop where
  starts : ∀ h run, Engine.Starts s none m h run
  author_found : ∀ h, authorOf (some s) h = .ok author
  squashes : ∀ act, Squashing (some s) act → ∀ h run,
    ∃ requests, Since run ((act h).exec run).2 requests [squashCall h ⟨s.workflow.squashMessage, author⟩]
  baseline : ∀ h options, optionsOf (some s) h = .ok options →
    ∀ b ∈ options.changeBaseline, ∃ c ∈ b.toList, Text.isBlank c = false
  replays : ∀ cwd git target contents (o : Tree.PatchOptions), o.stripSlashes = s.diff.stripSlashes →
    let activity := Tree.patch s.diff cwd git target contents o
    activity.outcome ≠ .error (.refused .negativeStrip) ∧ ∀ r ∈ activity.requests, 0 < r.timeout

theorem Normal.runs {s : Settings} (h : s.Normal) : Runs s s.workflow.mode s.authoring.defaultAuthor := by
  have hauthor : configuredAuthor s = .ok s.authoring.defaultAuthor := by
    rw [configuredAuthor, Author.parse_eq_ok.2 (Author.parse?_text h.authoring)]
    rfl
  refine ⟨?_, fun _ => hauthor, fun act hact helper run => ?_, ?_, ?_⟩
  · exact Engine.starts_of_select rfl
  · refine hact.since ?_ run
    rw [squashMetadata, show authorOf (some s) helper = _ from hauthor]
    rfl
  · rintro helper _ ⟨⟩ b hb
    have hblank : Text.allBlank b = false := h.workflow b hb
    simpa [Text.allBlank] using hblank
  · intro cwd git target contents o ho
    refine ⟨fun hrefused => ?_, fun r hr => ?_⟩
    · have := Tree.patch_refused_iff.1 hrefused
      omega
    · rw [Tree.timeout_of_mem_patch hr]
      exact s.diff.timeout_pos

/-- A mode that is supplied for the workflow section is accepted if and only if an engine that is asked for it gets
past the selection, and then it is the same mode. -/
theorem mode_ofData_iff_starts {text : String} (htext : text ≠ "") {settings : Settings} {m : Mode}
    {h : Helper} {run : Run} :
    (∃ w, Workflow.ofData (.ofFields [("mode", .text text)]) = .ok w ∧ w.mode = m) ↔
      Engine.Starts settings (some text) m h run := by
  rw [Engine.starts_iff_select, Engine.select_some_iff htext]
  constructor
  · rintro ⟨w, hw, rfl⟩
    obtain ⟨_, ⟨⟩, hread⟩ := record_eq_ok (report_eq_ok.1 hw)
    obtain ⟨mode, baseline, message, hmode, -, -, rfl⟩ := Checked.map3_eq_ok.1 hread
    rcases field_eq_ok hmode with ⟨_, ⟨⟩, hcheck⟩ | ⟨hnone, -⟩
    · obtain ⟨_, ⟨⟩, hname⟩ := checkMode_eq_ok.1 hcheck
      exact hname
    · cases hnone
  · intro hname
    have hmode : checkMode (.text text) = .ok m := checkMode_eq_ok.2 ⟨text, rfl, hname⟩
    exact ⟨{ mode := m }, report_eq_ok.2 (Checked.map3_eq_ok.2
      ⟨_, _, _, field_of_lookup rfl hmode, rfl, rfl, rfl⟩), rfl⟩

/-- **Accepted settings do not fail late.** The mode that runs is the one with the supplied name in upper case, and
the author of a squash the one that is read from the supplied identity. A mode by itself is accepted just where an
engine can be asked for it. -/
theorem accepted_settings_run (d : Data) (s : Settings) :
    (ofData d = .ok s → ∃ m author, Runs s m author ∧
      m.name = Text.upper ((suppliedText? d "workflow" "mode").getD "SQUASH") ∧
      Author.parse ((suppliedText? d "authoring" "default_author").getD "Tree Migrate <migrate@localhost>") =
        .ok author) ∧
    ∀ text : String, text ≠ "" → ∀ m h run,
      (∃ w, Workflow.ofData (.ofFields [("mode", .text text)]) = .ok w ∧ w.mode = m) ↔
        Engine.Starts s (some text) m h run := by
  refine ⟨fun h => ?_, fun text htext m h run => mode_ofData_iff_starts htext⟩
  exact ⟨_, _, (normal_of_ofData h).runs, name_mode_of_ofData h,
    Author.parse_eq_ok.2 (parse?_defaultAuthor_of_ofData h)⟩

/-- Data that names a mode with letters whose upper case is an ASCII one, and an author without a name. -/
def longLettered : Data :=
  .ofFields
    [ ("workflow", .ofFields [("mode", .text "ſquaſh")])
    , ("authoring", .ofFields [("default_author", .text " <ada@b>\n")]) ]

theorem long_lettered_squash_runs :
    Runs { authoring := { defaultAuthor := ⟨"", "ada@b"⟩ } } .squash ⟨"", "ada@b"⟩ ∧
      ∀ h run, Engine.Starts {} (some "ſquaſh") .squash h run := by
  obtain ⟨m, author, hruns, hname, hparse⟩ := (accepted_settings_run longLettered _).1 rfl
  have hmode : some m = some .squash := (ofName?_eq_some_iff.2 hname).symm.trans (by decide +kernel)
  have hauthor : some author = some ⟨"", "ada@b"⟩ :=
    (Author.parse_eq_ok.1 hparse).symm.trans (by decide +kernel)
  cases hmode
  cases hauthor
  refine ⟨hruns, fun h run => ?_⟩
  exact ((accepted_settings_run longLettered {}).2 "ſquaſh" (by decide) .squash h run).1 ⟨{}, rfl, rfl⟩

end Transplant.Settings
