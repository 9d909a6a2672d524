import Transplant.Console.Screen
import Transplant.Proofs.Terminal.Escape
import Transplant.Proofs.Terminal.Wrap
import Transplant.Terminal.SmallLexicon

/-!
# What a screen shows of a message

A message is escaped before it is shown, so that no bracket in it is read as a tag, and nothing that is said on a
screen fails. Yet a screen does not show every message word for word: an escaped bracket in the message loses its
backslash if no tag begins with it, a code becomes a picture, and a single backslash at the end is shown twice.

Main statement: `say_shows`.
-/

namespace Transplant.Screen

open Terminal Terminal.Markup Text

/-- The words and the colour of a title. -/
def label : Channel → String × String
  | .info => ("INFO:", "blue")
  | .warn => ("WARN:", "yellow")
  | .error => ("ERROR:", "red")
  | .progress => ("Task:", "green")

/-- A message behind the words of its title. -/
def labelled (channel : Channel) (message : List Char) : List Char :=
  (label channel).1.toList ++ ' ' :: message

/-- The title of a channel as a mark. -/
def mark (channel : Channel) : Mark :=
  { style := (label channel).2.toList
    sign := (label channel).1.toList
    name := (label channel).2
    isTag := by cases channel <;> decide +kernel
    isName := by cases channel <;> decide +kernel
    isTrimmed := by cases channel <;> decide +kernel
    normal := by cases channel <;> decide +kernel
    draws := by cases channel <;> decide +kernel
    before := ⟨tagless_of_plain (by cases channel <;> decide +kernel), by cases channel <;> decide +kernel⟩
    unescaped := by cases channel <;> decide +kernel
    uncoded := by cases channel <;> decide +kernel
    kept := List.all_iff_forall_prop.1 (by cases channel <;> decide +kernel) }

theorem toList_title (channel : Channel) : (title channel).toList = (mark channel).text := by
  cases channel <;> decide +kernel

theorem wraps_labelled {s : Screen} {channel : Channel} {text : List Char} (hwidth : 2 ≤ s.width)
    (htab : '\t' ∉ text) (hsteady : ∀ line ∈ lines text, Steady line) :
    Wraps (labelled channel text) (layOut s.width (labelled channel text)) := by
  have hlabel : Steady ((label channel).1.toList ++ [' ']) ∧ '\n' ∉ (label channel).1.toList ∧
      '\t' ∉ (label channel).1.toList := by
    cases channel <;> decide +kernel
  exact wraps_behind hlabel hwidth hsteady htab

section

variable [Lexicon]

/-- Whether a screen writes a message as it is behind the words of its title, wrapping aside. -/
def Writes (s : Screen) (channel : Channel) (text : String) : Prop :=
  ∃ output, Wraps (labelled channel text.toList) output ∧ s.say channel text = .ok (String.ofList output ++ "\n")

/-- **Nothing that is said fails**, and what is shown of it is what is told of the message. -/
theorem say_eq (s : Screen) (channel : Channel) (text : String) :
    s.say channel text = .ok (String.ofList (layOut s.width (labelled channel (told text.toList))) ++ "\n") := by
  have htext : (title channel ++ " " ++ escape text).toList = (mark channel).text ++ ' ' :: (escape text).toList := by
    rw [String.toList_append, String.toList_append, toList_title, List.append_assoc]
    rfl
  rw [say, printed, rendered, (mark channel).visible_escaped htext]
  rfl

/-- **What a screen shows of a message.** It writes the words of the title and behind them what is told of the
message, in lines that fit, and never fails. The message is told word for word if and only if it does not end with one
backslash only and each of its runs and brackets is free of escaped brackets, codes and characters that are dropped;
brackets as such do no harm. A message that is told word for word is written as it is, wrapping aside. -/
theorem say_shows (s : Screen) (channel : Channel) (text : String) :
    s.say channel text = .ok (String.ofList (layOut s.width (labelled channel (told text.toList))) ++ "\n") ∧
    (told text.toList = text.toList ↔
      endsWithSlash text.toList = false ∧ ∀ t ∈ tokens text.toList,
        ¬HasEscaped t.run ∧ replaceCodes t.run.length t.run = t.run ∧ ∀ c ∈ t.run, isDropped c = false) ∧
    (endsWithSlash text.toList = false → ¬HasEscaped text.toList → ':' ∉ text.toList →
      (∀ c ∈ text.toList, isDropped c = false) → told text.toList = text.toList) ∧
    (told text.toList = text.toList → 2 ≤ s.width → '\t' ∉ text.toList →
      (∀ line ∈ lines text.toList, Steady line) → s.Writes channel text) := by
  refine ⟨say_eq s channel text, ?_, fun hend hescaped hcolon => ?_, fun htold hwidth htab hsteady => ?_⟩
  · rw [told_eq_self_iff, and_comm]
    exact and_congr_right fun _ => forall₂_congr fun t _ => shown_eq_self_iff
  · refine told_of_plain hend hescaped ?_
    rintro ⟨name, pics, -, hin⟩
    exact hcolon (hin.subset (by simp))
  · refine ⟨_, wraps_labelled hwidth htab hsteady, ?_⟩
    rw [say_eq, htold]

theorem not_writes_of_solid {s : Screen} {channel : Channel} {text shown : String}
    (h : s.say channel text = .ok shown) (hne : solid shown.toList ≠ solid (labelled channel text.toList)) :
    ¬s.Writes channel text := by
  rintro ⟨output, hwraps, hsay⟩
  exact not_wraps_of_solid hne ⟨output, hwraps, Except.ok.inj (h.symm.trans hsay)⟩

end

/-! ## Messages with brackets and codes -/

open scoped Terminal.SmallLexicon

/-- A closing tag, an escaped tag and two backslashes at the end are shown as they are. -/
theorem say_shows_brackets :
    ({} : Screen).Writes .warn "pages/[id].tsx [/b] \\[red] c:\\\\" := by
  obtain ⟨-, -, -, hwrites⟩ := say_shows {} .warn "pages/[id].tsx [/b] \\[red] c:\\\\"
  exact hwrites (by decide +kernel) (by decide) (by decide +kernel) (by decide +kernel)

/-- **Some messages are not written as they are**: a backslash at the end is doubled, one before a bracket is dropped,
and a word between colons is replaced. -/
theorem say_alters :
    let screen : Screen := {}
    (screen.say .info "a\\" = .ok "INFO: a\\\\\n" ∧ ¬screen.Writes .info "a\\") ∧
    (screen.say .warn "\\[" = .ok "WARN: [\n" ∧ ¬screen.Writes .warn "\\[") ∧
    (screen.say .error ":smile:" = .ok "ERROR: 😄\n" ∧ ¬screen.Writes .error ":smile:") := by
  intro screen
  have hslash : screen.say .info "a\\" = .ok "INFO: a\\\\\n" := by decide +kernel
  have hbracket : screen.say .warn "\\[" = .ok "WARN: [\n" := by decide +kernel
  have hcode : screen.say .error ":smile:" = .ok "ERROR: 😄\n" := by decide +kernel
  exact ⟨⟨hslash, not_writes_of_solid hslash (by decide +kernel)⟩,
    ⟨hbracket, not_writes_of_solid hbracket (by decide +kernel)⟩,
    hcode, not_writes_of_solid hcode (by decide +kernel)⟩

end Transplant.Screen
