import Transplant.Command.Invocation
import Transplant.Proofs.Disk.Given
import Transplant.Proofs.Outcome

/-!
# Reading command lines

What a command line went through once it was read: the values and the arguments of its verb were checked, so that
a path that has to lead to a file or a directory does.

Main statement: `found_of_read_patch`.
-/

namespace Transplant.Command

variable {disk : Disk} {cwd : Tree.Path}

/-! ## Values -/

/-- Whether something on a disk is of a kind. -/
def PathKind.Fits : PathKind → Disk.Entry → Prop
  | .any, _ => True
  | .directory, entry => entry = .directory
  | .file, entry => ∃ contents, entry = .file contents

theorem refusal?_eq_none_iff {kind : PathKind} {word : String} :
    (Shape.path kind true).refusal? disk cwd word = none ↔
      ∃ entry, disk.examine cwd word = .ok entry ∧ kind.Fits entry := by
  unfold Shape.refusal?
  dsimp only
  cases hentry : disk.examine cwd word with
  | error why => simp
  | ok entry => cases entry <;> cases kind <;> simp [PathKind.Fits]

/-- A path passes its check if it leads to what has to be there. -/
theorem checkValue_path_iff {place word : String} {kind : PathKind} :
    checkValue disk cwd place (.path kind true) word = .ok () ↔
      ∃ entry, disk.examine cwd word = .ok entry ∧ kind.Fits entry := by
  rw [← refusal?_eq_none_iff, checkValue]
  cases hrefusal : (Shape.path kind true).refusal? disk cwd word with
  | some why =>
    refine ⟨fun hok => ?_, nofun⟩
    split at hok <;> cases hok
  | none =>
    obtain ⟨entry, hfound, -⟩ := refusal?_eq_none_iff.1 hrefusal
    rw [if_neg (by simp [Disk.hasNull_of_examine hfound])]
    exact ⟨fun _ => rfl, fun _ => rfl⟩

theorem checkValue_number {word : String} {n : Int} (h : Numeral.parse word = .ok n) (place : String) :
    checkValue disk cwd place .number word = .ok () := by
  rw [checkValue, if_neg (by simp [Shape.isPath]), Shape.refusal?, h]
  rfl

theorem checkSwitch_eq_ok {switch : Switch} {l : Line}
    (h : ∀ shape ∈ switch.shape?, ∀ value ∈ l.value? switch.long, ∀ place,
      checkValue disk cwd place shape value = .ok ()) : checkSwitch disk cwd l switch = .ok () := by
  unfold checkSwitch
  split
  · exact h _ ‹_› _ ‹_› _
  · rfl

theorem checkArguments_cons_ok {a : Argument} {rest : List Argument} {words left : List String}
    (h : checkArguments disk cwd (a :: rest) words = .ok left) :
    ∃ word others, words = word :: others ∧ (∃ place, checkValue disk cwd place a.shape word = .ok ()) ∧
      checkArguments disk cwd rest others = .ok left := by
  cases words with
  | nil => cases h
  | cons word others =>
    obtain ⟨⟨⟩, hvalue, hrest⟩ := ok_of_bind h
    exact ⟨word, others, rfl, ⟨_, hvalue⟩, hrest⟩

theorem checkArguments_cons {a : Argument} {rest : List Argument} {word : String} {words : List String}
    (h : ∀ place, checkValue disk cwd place a.shape word = .ok ()) :
    checkArguments disk cwd (a :: rest) (word :: words) = checkArguments disk cwd rest words := by
  rw [checkArguments, h]
  rfl

/-! ## Lines -/

/-- A line that was read has the words for all arguments. -/
theorem arguments_of_read {s : Signature} {words : List String} {l : Line} (h : s.read disk cwd words = .ok l) :
    ∃ rest, checkArguments disk cwd s.arguments l.words = .ok rest := by
  obtain ⟨line, -, h⟩ := ok_of_bind h
  split at h
  · cases h
  · obtain ⟨⟨⟩, -, h⟩ := ok_of_bind h
    obtain ⟨rest, hrest, h⟩ := ok_of_bind h
    split at h
    · cases h
      exact ⟨rest, hrest⟩
    · cases h

/-- The action of an invocation is the one that a line of some verb asks for. -/
theorem action_of_read {words : List String} {i : Invocation} (h : Invocation.read disk cwd words = .ok i) :
    ∃ (v : Verb) (own : Line) (others : List String), v.signature.read disk cwd others = .ok own ∧
      i.action = v.action own := by
  unfold Invocation.read at h
  split at h
  · cases h
  obtain ⟨l, -, h⟩ := ok_of_bind h
  obtain ⟨⟨v, others⟩, -, h⟩ := ok_of_bind h
  obtain ⟨own, hown, h⟩ := ok_of_bind h
  cases h
  exact ⟨v, own, others, mapError_eq_ok.1 hown, rfl⟩

/-- **A patch that was asked for has a directory and a file to work with.** -/
theorem found_of_read_patch {words : List String} {config : Option String} {verbose : Bool} {target diffFile : String}
    {exclude : List String} {strip : Option Int} {reverse : Bool}
    (h : Invocation.read disk cwd words = .ok ⟨config, verbose, .patch target diffFile exclude strip reverse⟩) :
    disk.examine cwd target = .ok .directory ∧ ∃ contents, disk.examine cwd diffFile = .ok (.file contents) := by
  obtain ⟨v, own, others, hown, haction⟩ := action_of_read h
  cases v with
  | init | diff | modes | status => cases haction
  | patch =>
    obtain ⟨left, hleft⟩ := arguments_of_read hown
    obtain ⟨first, more, hwords, ⟨_, hfirst⟩, hleft⟩ := checkArguments_cons_ok hleft
    obtain ⟨second, more', rfl, ⟨_, hsecond⟩, -⟩ := checkArguments_cons_ok hleft
    obtain ⟨_, htarget, rfl⟩ := checkValue_path_iff.1 hfirst
    obtain ⟨_, hfile, contents, rfl⟩ := checkValue_path_iff.1 hsecond
    rw [Verb.action, hwords] at haction
    cases haction
    exact ⟨htarget, contents, hfile⟩

end Transplant.Command
