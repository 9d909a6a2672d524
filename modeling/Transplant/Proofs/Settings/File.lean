import Transplant.Proofs.Command.Exec
import Transplant.Proofs.Settings.Normal
import Transplant.Proofs.Yaml.Outline

/-!
# Settings that were saved

A settings file has the data of the settings, so reading it gives the settings back as far as the document is
read as it was written.

Main statement: settings that passed a check pass it again as their own data, in each section and on the whole,
and are loaded from every file that they were saved to (`ofData_fixed_and_loaded`).
-/

namespace Transplant.Settings

open Command Yaml

variable {s : Settings}

/-! ## Documents -/

theorem entriesData_outline (s : Settings) : .map (Outline.entriesData s.outline) = s.toData := by
  simp only [outline, Outline.entriesData, Outline.toData, Outline.toData_ofText?]
  rfl

theorem ofDocument_toData (h : s.Normal) : ofDocument s.toData = .ok s := by
  have hread : ofDocument s.toData = (ofData s.toData).mapError .invalid := rfl
  rw [hread, ofData_toData h]
  rfl

theorem ofBytes_toFile (h : s.Normal) (hback : Outline.ReadsBack s.outline) (path : String) :
    ofBytes path (Text.encodeUtf8 s.toFile) = .ok s := by
  have hload : load (.ofBytes (Text.encodeUtf8 s.toFile)) = .ok s.toData := by
    rw [← entriesData_outline]
    exact hback.2
  rw [ofBytes, hload]
  exact ofDocument_toData h

/-! ## Files -/

theorem loadFile_of_saveSettings (h : s.Normal) (hback : Outline.ReadsBack s.outline) {file : String}
    {session after : Session} (hsave : (saveSettings file s).exec session = (.ok (), after)) :
    (loadFile file).exec after = (.ok s, after) := by
  obtain ⟨disk, rfl, hread⟩ := read_of_saveSettings hsave
  rw [exec_loadFile_of_read (s := session.onDisk disk) hread, ofBytes_toFile h hback]

/-- **Settings that passed a check are fixed.** Their data passes again and gives the same settings, and so does the
data of each section. If the document that they are written as is read as it was written, they are loaded from
every file to which they were saved, and they can be saved wherever a file can be written, whatever it held. -/
theorem ofData_fixed_and_loaded {d : Data} (h : ofData d = .ok s) :
    ofData s.toData = .ok s ∧
    Workflow.ofData s.workflow.toData = .ok s.workflow ∧
    Authoring.ofData s.authoring.toData = .ok s.authoring ∧
    Diff.ofData s.diff.toData = .ok s.diff ∧
    Logging.ofData s.logging.toData = .ok s.logging ∧
    (Outline.ReadsBack s.outline → ∀ (file : String) (session : Session),
      (∀ after, (saveSettings file s).exec session = (.ok (), after) →
        (loadFile file).exec after = (.ok s, after)) ∧
      (session.disk.isDirectory session.directory = true →
        (∃ disk, session.disk.update (session.path file) (fun _ => Text.encodeUtf8 s.toFile) = .ok disk) →
        ∃ after, (saveSettings file s).exec session = (.ok (), after))) := by
  have hnormal := normal_of_ofData h
  refine ⟨ofData_toData hnormal, Schema.report_eq_ok.2 (Workflow.check_toData hnormal.workflow),
    Schema.report_eq_ok.2 (Authoring.check_toData hnormal.authoring), Schema.report_eq_ok.2 (Diff.check_toData _),
    Schema.report_eq_ok.2 (Logging.check_toData hnormal.logging), fun hback file session => ⟨?_, ?_⟩⟩
  · exact fun after hsave => loadFile_of_saveSettings hnormal hback hsave
  · rintro hcwd ⟨disk, hwritable⟩
    exact ⟨_, exec_saveSettings hback.1 hcwd hwritable⟩

/-- Data with names in mixed case, a blank baseline, and an author without a name. -/
def padded : Data :=
  .ofFields
    [ ("workflow", .ofFields
        [("mode", .text "Iterative"), ("change_baseline", .text " \t"), ("squash_message", .text "m")])
    , ("authoring", .ofFields [("default_author", .text "\n<ada@b>  ")])
    , ("diff", .ofFields [("strip_slashes", .text "01"), ("excluded_paths", .set [.text "*.o"])])
    , ("logging", .ofFields [("level", .text "debug"), ("format", .text "f")]) ]

/-- The settings that this data stands for. -/
def tidied : Settings :=
  { workflow := { mode := .iterative, changeBaseline := none, squashMessage := "m" }
    authoring := { defaultAuthor := ⟨"", "ada@b"⟩ }
    diff := { Diff.standard with excludedPaths := ["*.o"], stripSlashes := 1 }
    logging := { level := .debug, format := "f" } }

/-- A session in the root directory with some file. -/
def crowded : Session :=
  { directory := ⟨false, []⟩
    environment := default
    tool := fun _ => .completed 0 [] []
    disk := { entries := [(["s.yaml".toList], .file [0x5b])] } }

theorem loaded_after_saving_padded :
    ofData tidied.toData = .ok tidied ∧
      ∃ after, (saveSettings "s.yaml" tidied).exec crowded = (.ok (), after) ∧
        (loadFile "s.yaml").exec after = (.ok tidied, after) := by
  have h := ofData_fixed_and_loaded (d := padded) (s := tidied) rfl
  obtain ⟨hload, hsave⟩ := h.2.2.2.2.2 (by decide +kernel) "s.yaml" crowded
  obtain ⟨after, hafter⟩ := hsave (by decide +kernel) ⟨_, rfl⟩
  exact ⟨h.1, after, hafter, hload after hafter⟩

end Transplant.Settings
