import Transplant.Log.Sink
import Transplant.Proofs.Log.Layout

/-!
# The file beside the console

A log in colours can be written to a file as well if no plain tag of its format is closed by `</>`, and the file then has
the text of the console without the codes of colours (`file_shows_console_iff_named`). This is told of the formats whose
parts are separable. For others the file can be refused, or have another text (`file_departs_from_console`).
-/

namespace Transplant.Log

/-- The format of a log, which may ask for none. -/
def formatOf (format : Option String) : String :=
  (given? format).getD consoleFormat

section

variable {level asked path : String} {format : Option String} {s : Sinks} {l plain : Layout}

theorem console_of_setUp (h : (setUp level none format).sinks = .ok s) :
    Level.ofName? level = some s.level ∧ Layout.parse? (formatOf format) = some s.console := by
  unfold setUp at h
  dsimp only at h
  split at h
  · cases h
  · rename_i l hlevel
    split at h
    · cases h
    · rename_i console hconsole _
      cases h
      exact ⟨hlevel, hconsole⟩
    · rename_i heq
      cases heq

theorem setUp_file {minimum : Level} (hlevel : Level.ofName? level = some minimum)
    (hlayout : Layout.parse? (formatOf format) = some l) (hasked : asked ≠ "") (hplace : placeOf asked = .ok path) :
    setUp level (some asked) format =
      match Layout.parse? (plainFormat (formatOf format)) with
      | none => { asked, created := path, sinks := .error .badLayout }
      | some plain => { asked, created := path, sinks := .ok ⟨minimum, l, some ⟨asked, path, plain⟩⟩ } := by
  have hgiven : given? (some asked) = some asked := by simp [given?, hasked]
  rw [formatOf] at hlayout ⊢
  simp only [setUp, hlevel, hlayout, hgiven, hplace]
  cases Layout.parse? (plainFormat ((given? format).getD consoleFormat)) <;> rfl

theorem coded_of_parse? {f : String} (h : Layout.parse? f = some l) : ∀ piece ∈ l.pieces, piece.IsCoded := by
  obtain ⟨parts, -, -, hpieces⟩ := Layout.parse?_eq_some_iff.1 h
  exact Layout.ofParts?_coded hpieces nofun

theorem lines_tinted (h : ∀ piece ∈ l.pieces, piece.IsCoded) (s : Sinks) (records : List Record) :
    Tinted (s.lines l false records).toList (s.lines l true records).toList := by
  unfold Sinks.lines
  rw [String.toList_ofList, String.toList_ofList]
  generalize records.filter _ = taken
  induction taken with
  | nil => exact .nil
  | cons r taken ih =>
    rw [List.flatMap_cons, List.flatMap_cons]
    refine Tinted.append ?_ ih
    have hline := Layout.render?_tinted h r
    generalize l.render? false r = plain at hline ⊢
    generalize l.render? true r = coloured at hline ⊢
    cases hline with
    | none => exact .nil
    | some hline => exact hline

/-- **The file shows what the console does.** Where a format makes a console, and its parts are separable, it makes a file
too if and only if as many plain tags are closed by their names as are opened. The console is the same then, and for all
records the file has its text without the codes of colours. Otherwise the file is there when the format is refused. -/
theorem file_shows_console_iff_named (hconsole : (setUp level none format).sinks = .ok s) (hasked : asked ≠ "")
    (hplace : placeOf asked = .ok path) (hseparable : ∀ part ∈ Layout.partsOf (formatOf format), part.IsSeparable) :
    let setup := setUp level (some asked) format
    let named := Mark.Named ((Layout.partsOf (formatOf format)).flatMap Part.marks)
    setup.created = some path ∧
    (named → ∃ s', setup.sinks = .ok s' ∧ ∀ records,
      s'.consoleText records = s.consoleText records ∧
      s'.fileText records = some (path, s.lines s.console false records) ∧
      Tinted (s.lines s.console false records).toList (s.consoleText records).toList) ∧
    (¬ named → setup.sinks = .error .badLayout) := by
  intro setup named
  obtain ⟨hlevel, hlayout⟩ := console_of_setUp hconsole
  obtain ⟨hexists, hsame⟩ := Layout.parse?_plainFormat hlayout hseparable
  have hsetup : setup = _ := setUp_file hlevel hlayout hasked hplace
  rw [hsetup]
  cases hplain : Layout.parse? (plainFormat (formatOf format)) with
  | none =>
    refine ⟨rfl, fun hnamed => ?_, fun _ => rfl⟩
    obtain ⟨l', hl'⟩ := hexists.2 hnamed
    rw [hplain] at hl'
    cases hl'
  | some plain =>
    refine ⟨rfl, fun _ => ⟨_, rfl, fun records => ⟨rfl, ?_, lines_tinted (coded_of_parse? hlayout) s records⟩⟩,
      fun hnamed => absurd (hexists.1 ⟨plain, hplain⟩) hnamed⟩
    have hlines : s.lines plain false records = s.lines s.console false records := by
      simp only [Sinks.lines, hsame plain hplain]
    rw [← hlines]
    rfl

/-- A log that asks for no format, in a directory of its own. -/
theorem file_shows_console_by_default :
    let records : List Record := [⟨.warning, some "engine", "late"⟩, ⟨.debug, none, "hidden"⟩]
    ∃ s', (setUp "INFO" (some "logs/m.log") none).sinks = .ok s' ∧
      s'.fileText records = some ("logs/m.log", " | WARNING  | engine | late\n") ∧
      Tinted " | WARNING  | engine | late\n".toList (s'.consoleText records).toList := by
  intro records
  have hshown : (setUp "INFO" none none).sinks.toOption.map (fun s => s.lines s.console false records) =
      some " | WARNING  | engine | late\n" := by decide +kernel
  obtain ⟨s, hs, htext⟩ := Option.map_eq_some_iff.1 hshown
  obtain ⟨-, hnamed, -⟩ := file_shows_console_iff_named (ok_of_toOption hs) (by decide : "logs/m.log" ≠ "") rfl
    (by decide +kernel)
  obtain ⟨s', hs', hshows⟩ := hnamed (by decide +kernel)
  obtain ⟨hsame, hfile, htinted⟩ := hshows records
  rw [htext] at hfile htinted
  exact ⟨s', hs', hfile, hsame ▸ htinted⟩

/-- **The file is refused, or has another text,** where an anonymous tag closes a plain one, and where a plain tag stands
behind a backslash. -/
theorem file_departs_from_console :
    let r : Record := ⟨.info, none, "hello"⟩
    let closed := "<red>\x7bmessage\x7d</>"
    let escaped := "\\<b>\x7bmessage\x7d"
    (∃ s, (setUp "INFO" none (some closed)).sinks = .ok s ∧ s.consoleText [r] = "\x1b[31mhello\x1b[0m\n") ∧
    (setUp "INFO" (some "m.log") (some closed)).created = some "m.log" ∧
    (setUp "INFO" (some "m.log") (some closed)).sinks = .error .badLayout ∧
    ∃ s, (setUp "INFO" (some "m.log") (some escaped)).sinks = .ok s ∧ s.consoleText [r] = "<b>hello\n" ∧
      s.fileText [r] = some ("m.log", "\\hello\n") :=
  ⟨⟨_, rfl, by decide +kernel⟩, rfl, rfl, _, rfl, by decide +kernel, by decide +kernel⟩

end

end Transplant.Log
