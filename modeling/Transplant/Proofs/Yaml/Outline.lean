import Transplant.Yaml.Load
import Transplant.Yaml.Outline

/-!
# What outlines write down

The value of an outline (`Outline.toData`), and whether reading a document gives it back
(`Outline.ReadsBack`), which can be tested on any document.
-/

namespace Transplant.Yaml.Outline

/-! ## Values -/

mutual

/-- The value that an outline writes down. -/
def toData : Outline → Data
  | .null => .null
  | .bool b => .bool b
  | .int n => .int n
  | .text s => .text s
  | .items xs => .ofTexts xs
  | .fields entries => .map (entriesData entries)

/-- The entries that the fields of an outline write down. -/
def entriesData : List (String × Outline) → List (Data × Data)
  | [] => []
  | (name, o) :: rest => (.text name, toData o) :: entriesData rest

end

@[simp] theorem toData_ofText? (s : Option String) : (ofText? s).toData = .ofText? s := by
  cases s <;> rfl

/-! ## Testing -/

/-- Whether values are some texts. -/
def isTexts : List String → List Data → Bool
  | [], [] => true
  | x :: xs, .text s :: ds => s == x && isTexts xs ds
  | _, _ => false

mutual

/-- Whether a value is the one that an outline writes down. -/
def isValue : Outline → Data → Bool
  | .null, .null => true
  | .bool b, .bool c => c == b
  | .int m, .int n => n == m
  | .text s, .text t => t == s
  | .items xs, .list ds => isTexts xs ds
  | .fields entries, .map ds => isEntries entries ds
  | _, _ => false

/-- Whether entries are the ones that some fields write down. -/
def isEntries : List (String × Outline) → List (Data × Data) → Bool
  | [], [] => true
  | (name, o) :: rest, (.text s, d) :: ds => s == name && isValue o d && isEntries rest ds
  | _, _ => false

end

theorem isTexts_iff {xs : List String} {ds : List Data} : isTexts xs ds = true ↔ ds = xs.map .text := by
  induction xs generalizing ds with
  | nil => cases ds <;> simp [isTexts]
  | cons x xs ih =>
    cases ds with
    | nil => simp [isTexts]
    | cons d ds => cases d <;> simp [isTexts, ih]

mutual

theorem isValue_iff : ∀ {o : Outline} {d : Data}, isValue o d = true ↔ d = o.toData
  | .null, d => by cases d <;> simp [isValue, toData]
  | .bool b, d => by cases d <;> simp [isValue, toData]
  | .int n, d => by cases d <;> simp [isValue, toData]
  | .text s, d => by cases d <;> simp [isValue, toData]
  | .items xs, d => by cases d <;> simp [isValue, toData, Data.ofTexts, isTexts_iff]
  | .fields entries, d => by cases d <;> simp [isValue, toData, isEntries_iff]

theorem isEntries_iff : ∀ {entries : List (String × Outline)} {ds : List (Data × Data)},
    isEntries entries ds = true ↔ ds = entriesData entries
  | [], ds => by cases ds <;> simp [isEntries, entriesData]
  | (name, o) :: rest, [] => by simp [isEntries, entriesData]
  | (name, o) :: rest, (k, d) :: ds => by
    cases k <;> simp [isEntries, entriesData, isValue_iff, isEntries_iff, and_assoc]

end

/-! ## Reading back -/

/-- Whether a document can be written and reading it gives the value that it was written from. -/
def ReadsBack (entries : List (String × Outline)) : Prop :=
  check entries = .ok () ∧
    load (.ofBytes (Text.encodeUtf8 (document entries))) = .ok (.map (entriesData entries))

/-- Writes a document, reads it and compares. -/
def testReading (entries : List (String × Outline)) : Bool :=
  (check entries).isOk && match load (.ofBytes (Text.encodeUtf8 (document entries))) with
  | .ok d => isValue (.fields entries) d
  | .error _ => false

theorem testReading_iff {entries : List (String × Outline)} : testReading entries = true ↔ ReadsBack entries := by
  have hcheck : (check entries).isOk = true ↔ check entries = .ok () := by
    cases check entries <;> simp [Except.isOk, Except.toBool]
  unfold testReading ReadsBack
  rw [Bool.and_eq_true, hcheck]
  cases load (.ofBytes (Text.encodeUtf8 (document entries))) with
  | error why => simp
  | ok d => simp [isValue_iff, toData]

instance (entries : List (String × Outline)) : Decidable (ReadsBack entries) :=
  decidable_of_iff (testReading entries = true) testReading_iff

end Transplant.Yaml.Outline
