import Transplant.Proofs.Author
import Transplant.Proofs.Schema.Checked
import Transplant.Proofs.Workflow.Baseline

/-!
# Settings in normal form

What a check lets through is written in one way only: the baseline is not blank, the default author can be read
from its own text, and the level is one that can be chosen. Each field is read back from its data, and so is
every section and the whole.

Main statements: settings that some data passes as are in normal form (`normal_of_ofData`), and the data of settings
in normal form passes as them (`ofData_toData`).
-/

namespace Transplant.Settings

open Schema

/-! ## What passes -/

theorem checkMode_eq_ok {d : Data} {m : Mode} :
    checkMode d = .ok m ↔ ∃ s, readText d = .ok s ∧ Mode.ofAnyCase? s = some m :=
  readText_orRefuse_eq_ok

theorem checkIdentity_eq_ok {d : Data} {a : Author} :
    checkIdentity d = .ok a ↔ ∃ s, readText d = .ok s ∧ Author.parse? s = some a :=
  readText_orRefuse_eq_ok

theorem checkLevel_eq_ok {d : Data} {l : Log.Level} :
    checkLevel d = .ok l ↔
      ∃ s, readText d = .ok s ∧ (Log.Level.configurable.find? fun l => l.name == Text.upper s) = some l :=
  readText_orRefuse_eq_ok

/-! ## Fields read back -/

theorem checkMode_name (m : Mode) : checkMode (.text m.name) = .ok m := by
  cases m <;> rfl

theorem checkBaseline_ofText? {baseline : Option String} (h : ∀ b ∈ baseline, Text.allBlank b = false) :
    checkBaseline (.ofText? baseline) = .ok baseline := by
  cases baseline with
  | none => rfl
  | some b =>
    have hkept : (some b).filter (fun b => !Text.allBlank b) = some b := by simp [h b rfl]
    exact congrArg Except.ok hkept

theorem checkIdentity_text {a : Author} (h : a.Legible) : checkIdentity (.text a.text) = .ok a :=
  checkIdentity_eq_ok.2 ⟨a.text, rfl, Author.parse?_text h⟩

theorem checkStrip_int (n : Nat) : checkStrip (.int n) = .ok n := by
  have hread : checkStrip (.int n) =
    if (n : Int) < 0 then Checked.fail (.refused .negativeStrip) (.int n) else .ok (n : Int).toNat := rfl
  rw [hread, if_neg (by omega), Int.toNat_natCast]

theorem checkTimeout_int {n : Nat} (h : 0 < n) : checkTimeout (.int n) = .ok ⟨n, h⟩ :=
  dif_pos h

theorem checkLevel_name {l : Log.Level} (h : l ∈ Log.Level.configurable) :
    checkLevel (.text l.name) = .ok l := by
  cases l <;> first | rfl | exact absurd h (by decide)

theorem readText?_ofText? (s : Option String) : readText? (.ofText? s) = .ok s := by
  cases s <;> rfl

theorem checkItems_texts (i : Nat) (xs : List String) : checkItems readText i (xs.map .text) = .ok xs := by
  induction xs generalizing i with
  | nil => rfl
  | cons x rest ih =>
    rw [List.map_cons, checkItems, ih]
    rfl

theorem readTexts_ofTexts (xs : List String) : readTexts (.ofTexts xs) = .ok xs :=
  checkItems_texts 0 xs

/-! ## Sections -/

/-- Whether a workflow section is in normal form. -/
def Workflow.Normal (w : Workflow) : Prop :=
  ∀ b ∈ w.changeBaseline, Text.allBlank b = false

/-- Whether an authoring section is in normal form. -/
def Authoring.Normal (a : Authoring) : Prop :=
  a.defaultAuthor.Legible

/-- Whether a logging section is in normal form. -/
def Logging.Normal (l : Logging) : Prop :=
  l.level ∈ Log.Level.configurable

theorem Workflow.normal_of_check {d : Data} {w : Workflow} (h : Workflow.check d = .ok w) : w.Normal := by
  intro b hb
  rcases Transplant.Workflow.changeBaseline_of_check h with hnone | ⟨c, hc, hblank, -⟩
  · rw [hnone] at hb
    cases hb
  · rw [hc] at hb
    cases hb
    exact hblank

theorem Workflow.check_toData {w : Workflow} (h : w.Normal) : Workflow.check w.toData = .ok w :=
  Checked.map3_eq_ok.2
    ⟨_, _, _, field_of_lookup rfl (checkMode_name _), field_of_lookup rfl (checkBaseline_ofText? h),
      field_of_lookup rfl rfl, rfl⟩

theorem Authoring.normal_default : Authoring.Normal {} :=
  Author.legible_of_parse? (s := "Tree Migrate <migrate@localhost>") (by decide +kernel)

theorem Authoring.normal_of_check {d : Data} {a : Authoring} (h : Authoring.check d = .ok a) : a.Normal := by
  obtain ⟨entries, -, hread⟩ := record_eq_ok h
  obtain ⟨author, hauthor, rfl⟩ := Checked.map_eq_ok.1 hread
  refine of_field_eq_ok (P := Author.Legible) hauthor ?_ fun d b hd => ?_
  · rintro _ ⟨⟩
    exact Authoring.normal_default
  · obtain ⟨identity, -, hparse⟩ := checkIdentity_eq_ok.1 hd
    exact Author.legible_of_parse? hparse

theorem Authoring.check_toData {a : Authoring} (h : a.Normal) : Authoring.check a.toData = .ok a :=
  Checked.map_eq_ok.2 ⟨_, field_of_lookup rfl (checkIdentity_text h), rfl⟩

theorem Diff.check_toData (s : Diff) : Diff.check s.toData = .ok s :=
  Checked.map5_eq_ok.2
    ⟨_, _, _, _, _, field_of_lookup rfl rfl, field_of_lookup rfl (readTexts_ofTexts _),
      field_of_lookup rfl (checkStrip_int _), field_of_lookup rfl rfl,
      field_of_lookup rfl (checkTimeout_int s.timeout_pos), rfl⟩

theorem Logging.normal_of_check {d : Data} {l : Logging} (h : Logging.check d = .ok l) : l.Normal := by
  obtain ⟨entries, -, hread⟩ := record_eq_ok h
  obtain ⟨level, file, format, hlevel, -, -, rfl⟩ := Checked.map3_eq_ok.1 hread
  refine of_field_eq_ok (P := (· ∈ Log.Level.configurable)) hlevel ?_ fun d b hd => ?_
  · rintro _ ⟨⟩
    decide
  · obtain ⟨name, -, hfind⟩ := checkLevel_eq_ok.1 hd
    exact List.mem_of_find?_eq_some hfind

theorem Logging.check_toData {l : Logging} (h : l.Normal) : Logging.check l.toData = .ok l :=
  Checked.map3_eq_ok.2
    ⟨_, _, _, field_of_lookup rfl (checkLevel_name h), field_of_lookup rfl (readText?_ofText? _),
      field_of_lookup rfl rfl, rfl⟩

/-! ## Settings -/

/-- Whether settings are in normal form. -/
structure Normal (s : Settings) : Prop where
  workflow : s.workflow.Normal
  authoring : s.authoring.Normal
  logging : s.logging.Normal

/-- What a check of settings lets through is in normal form; sections that were left out are, too. -/
theorem normal_of_ofData {d : Data} {s : Settings} (h : ofData d = .ok s) : s.Normal := by
  obtain ⟨entries, -, hread⟩ := record_eq_ok (report_eq_ok.1 h)
  obtain ⟨w, a, t, l, -, hw, ha, -, hl, -, rfl⟩ := Checked.map5_eq_ok.1 hread
  refine ⟨?_, ?_, ?_⟩
  · refine of_field_eq_ok (P := Workflow.Normal) hw ?_ fun d b => Workflow.normal_of_check
    rintro _ ⟨⟩
    exact nofun
  · refine of_field_eq_ok (P := Authoring.Normal) ha ?_ fun d b => Authoring.normal_of_check
    rintro _ ⟨⟩
    exact Authoring.normal_default
  · refine of_field_eq_ok (P := Logging.Normal) hl ?_ fun d b => Logging.normal_of_check
    rintro _ ⟨⟩
    change Log.Level.info ∈ Log.Level.configurable
    decide

theorem ofData_toData {s : Settings} (h : s.Normal) : ofData s.toData = .ok s :=
  report_eq_ok.2 <| Checked.map5_eq_ok.2
    ⟨_, _, _, _, _, field_of_lookup rfl (Workflow.check_toData h.workflow),
      field_of_lookup rfl (Authoring.check_toData h.authoring), field_of_lookup rfl (Diff.check_toData _),
      field_of_lookup rfl (Logging.check_toData h.logging), rfl, rfl⟩

end Transplant.Settings
