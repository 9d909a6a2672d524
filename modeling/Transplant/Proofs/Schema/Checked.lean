import Transplant.Schema.Checked

/-!
# What a passed check tells

A combined check passes when its parts do, and then its value is made of theirs. A field that passes
was supplied and read, or was left out and has its default (`field_eq_ok`, `of_field_eq_ok`).
-/

namespace Transplant.Schema

variable {α β γ δ ε ζ : Type}

namespace Checked

theorem seq_eq_ok {f : Checked (α → β)} {x : Checked α} {b : β} :
    seq f x = .ok b ↔ ∃ g a, f = .ok g ∧ x = .ok a ∧ g a = b := by
  cases f <;> cases x <;> simp [seq]

theorem map_eq_ok {f : α → β} {x : Checked α} {b : β} :
    x.map f = .ok b ↔ ∃ a, x = .ok a ∧ f a = b := by
  cases x <;> simp [Except.map]

theorem map2_eq_ok {f : α → β → γ} {x : Checked α} {y : Checked β} {c : γ} :
    map2 f x y = .ok c ↔ ∃ a b, x = .ok a ∧ y = .ok b ∧ f a b = c := by
  rw [map2, seq_eq_ok]
  simp only [map_eq_ok]
  grind

theorem map3_eq_ok {f : α → β → γ → δ} {x : Checked α} {y : Checked β} {z : Checked γ} {d : δ} :
    map3 f x y z = .ok d ↔ ∃ a b c, x = .ok a ∧ y = .ok b ∧ z = .ok c ∧ f a b c = d := by
  rw [map3, seq_eq_ok]
  simp only [map2_eq_ok]
  grind

theorem map4_eq_ok {f : α → β → γ → δ → ε} {x : Checked α} {y : Checked β} {z : Checked γ} {w : Checked δ}
    {e : ε} : map4 f x y z w = .ok e ↔
      ∃ a b c d, x = .ok a ∧ y = .ok b ∧ z = .ok c ∧ w = .ok d ∧ f a b c d = e := by
  rw [map4, seq_eq_ok]
  simp only [map3_eq_ok]
  grind

theorem map5_eq_ok {f : α → β → γ → δ → ε → ζ} {x : Checked α} {y : Checked β} {z : Checked γ}
    {w : Checked δ} {v : Checked ε} {r : ζ} : map5 f x y z w v = .ok r ↔
      ∃ a b c d e, x = .ok a ∧ y = .ok b ∧ z = .ok c ∧ w = .ok d ∧ v = .ok e ∧
        f a b c d e = r := by
  rw [map5, seq_eq_ok]
  simp only [map4_eq_ok]
  grind

theorem under_eq_ok {step : Step} {x : Checked α} {a : α} : under step x = .ok a ↔ x = .ok a := by
  cases x with
  | error problems => constructor <;> (intro h; cases h)
  | ok b => exact Iff.rfl

end Checked

theorem field_eq_ok {entries : List (Data × Data)} {name : String} {default : Option α}
    {read : Data → Checked α} {a : α} (h : field entries name default read = .ok a) :
    (∃ d, Data.lookup entries name = some d ∧ read d = .ok a) ∨
      (Data.lookup entries name = none ∧ default = some a) := by
  unfold field at h
  cases hlook : Data.lookup entries name with
  | some d =>
    rw [hlook] at h
    exact Or.inl ⟨d, rfl, Checked.under_eq_ok.1 h⟩
  | none =>
    rw [hlook] at h
    cases default with
    | some b =>
      cases h
      exact Or.inr ⟨rfl, rfl⟩
    | none => cases Checked.under_eq_ok.1 h

/-- A text that is read and then understood as something else, or refused. -/
theorem readText_orRefuse_eq_ok {d : Data} {why : String → Refusal} {f : String → Option α} {a : α} :
    (readText d >>= fun s => Checked.orRefuse d (why s) (f s)) = .ok a ↔
      ∃ s, readText d = .ok s ∧ f s = some a := by
  cases readText d with
  | error problems =>
    refine iff_of_false nofun ?_
    rintro ⟨s, hs, -⟩
    cases hs
  | ok s =>
    change Checked.orRefuse d (why s) (f s) = .ok a ↔ _
    cases hf : f s <;> simp [Checked.orRefuse, Checked.fail, hf]

/-- What holds of the default and of every value that is read holds of the value of a field. -/
theorem of_field_eq_ok {entries : List (Data × Data)} {name : String} {default : Option α}
    {read : Data → Checked α} {a : α} {P : α → Prop} (h : field entries name default read = .ok a)
    (hdefault : ∀ b ∈ default, P b) (hread : ∀ d b, read d = .ok b → P b) : P a := by
  rcases field_eq_ok h with ⟨d, -, hd⟩ | ⟨-, hnone⟩
  · exact hread d a hd
  · exact hdefault a hnone

theorem field_of_lookup {entries : List (Data × Data)} {name : String} {default : Option α}
    {read : Data → Checked α} {d : Data} {a : α} (hd : Data.lookup entries name = some d)
    (ha : read d = .ok a) : field entries name default read = .ok a := by
  unfold field
  rw [hd]
  exact Checked.under_eq_ok.2 ha

theorem record_eq_ok {model : Model} {d : Data} {read : List (Data × Data) → Checked α} {a : α}
    (h : record model d read = .ok a) : ∃ entries, d.opened = .map entries ∧ read entries = .ok a := by
  unfold record at h
  split at h
  case h_1 entries hopened => exact ⟨entries, hopened, h⟩
  case h_2 => cases h

/-- A record that passes does so as the mapping of its entries. -/
theorem opened_of_record_eq_ok {model : Model} {d : Data} {read : List (Data × Data) → Checked α} {a : α}
    (h : record model d read = .ok a) :
    ∃ entries, d.opened = .map entries ∧ record model (.map entries) read = .ok a :=
  record_eq_ok h

theorem report_eq_ok {model : Model} {x : Checked α} {a : α} : report model x = .ok a ↔ x = .ok a := by
  cases x with
  | error problems => constructor <;> (intro h; cases h)
  | ok b => constructor <;> (intro h; cases h; rfl)

end Transplant.Schema
