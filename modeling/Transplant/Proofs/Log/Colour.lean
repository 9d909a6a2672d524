import Transplant.Log.Colour
import Transplant.Proofs.Text.Decimal

/-!
# Codes of colours

What a tag switches on is a colour of the level or a sequence whose parameters are digits and semicolons
(`Colour.isCode_of_ofName?`). So a line in colours is its text with such sequences put in (`Tinted`).
-/

namespace Transplant.Log

namespace Colour

/-- Whether a text can be the parameters of an escape sequence for colours. -/
def IsCode (cs : List Char) : Prop :=
  ∀ c ∈ cs, Text.isDigit c = true ∨ c = ';'

instance (cs : List Char) : Decidable (IsCode cs) :=
  List.decidableBAll _ cs

section

variable {cs ds place name parameters : List Char} {n : Nat}

theorem IsCode.append (h : IsCode cs) (h' : IsCode ds) : IsCode (cs ++ ds) :=
  fun c hc => (List.mem_append.1 hc).elim (h c) (h' c)

theorem IsCode.cons (h : IsCode cs) : IsCode (';' :: cs) :=
  fun _ hc => (List.mem_cons.1 hc).elim .inr (h _)

theorem isCode_digits (n : Nat) : IsCode (Text.digits n) :=
  fun _ hc => .inl (Text.isDigit_of_mem_digits hc)

theorem isCode_of_isByte (h : isByte cs = true) : IsCode cs := by
  obtain ⟨-, hvalue⟩ := Bool.and_eq_true_iff.1 h
  obtain ⟨n, hn, -⟩ := (Option.any_eq_true _ _).1 hvalue
  exact fun c hc => .inl (Text.isDigit_of_valueOf? hn c hc)

theorem isCode_of_splitOn (h : (Text.splitOn ',' name).all isByte = true) :
    IsCode (name.map fun c => if c == ',' then ';' else c) := by
  intro c hc
  obtain ⟨d, hd, rfl⟩ := List.mem_map.1 hc
  rcases Text.mem_splitOn_of_mem ',' hd with rfl | ⟨piece, hpiece, hd⟩
  · exact .inr rfl
  · have hne : d ≠ ',' := (Text.of_mem_piece hpiece hd).2
    rw [if_neg (by simpa using hne)]
    exact isCode_of_isByte (List.all_eq_true.1 h piece hpiece) d hd

theorem isCode_of_explicit? (hplace : IsCode place) (h : explicit? place name = some parameters) :
    IsCode parameters := by
  unfold explicit? at h
  dsimp only at h
  split at h
  · rename_i hbyte
    cases h
    exact (hplace.append (by decide)).append (isCode_of_isByte hbyte)
  split at h
  · obtain ⟨ns, -, rfl⟩ := Option.map_eq_some_iff.1 h
    refine (hplace.append (by decide)).append fun c hc => ?_
    obtain ⟨n, -, hc⟩ := List.mem_flatMap.1 hc
    exact (isCode_digits n).cons c hc
  split at h
  · rename_i hparts
    cases h
    exact (hplace.append (by decide)).append (isCode_of_splitOn (Bool.and_eq_true_iff.1 hparts).2)
  · cases h

theorem isCode_of_numbered {n : Option Nat} {first : Nat}
    (h : n.map (fun n => Colour.sequence (Text.digits (first + n))) = some (.sequence parameters)) :
    IsCode parameters := by
  obtain ⟨n, -, heq⟩ := Option.map_eq_some_iff.1 h
  cases heq
  exact isCode_digits _

/-- **A tag switches on nothing but colours.** -/
theorem isCode_of_ofName? (h : ofName? name = some (.sequence parameters)) : IsCode parameters := by
  unfold ofName? at h
  dsimp only at h
  split at h
  · cases h
  split at h
  · cases h
    exact isCode_digits _
  · split at h
    · rcases Option.or_eq_some_iff.1 h with h | ⟨-, h⟩
      · exact isCode_of_numbered h
      · obtain ⟨explicit, hexplicit, heq⟩ := Option.map_eq_some_iff.1 h
        cases heq
        exact isCode_of_explicit? (by decide) hexplicit
    · rcases Option.or_eq_some_iff.1 h with h | ⟨-, h⟩
      · exact isCode_of_numbered h
      · obtain ⟨explicit, hexplicit, heq⟩ := Option.map_eq_some_iff.1 h
        cases heq
        exact isCode_of_explicit? (by decide) hexplicit
    · rcases Option.or_eq_some_iff.1 h with h | ⟨-, h⟩ <;> exact isCode_of_numbered h

end

/-- Whether a colour is switched on by sequences for colours only. -/
def IsCoded : Colour → Prop
  | .ofLevel => True
  | .sequence parameters => IsCode parameters

theorem isCoded_of_ofName? {name : List Char} {colour : Colour} (h : ofName? name = some colour) : colour.IsCoded := by
  cases colour with
  | ofLevel => trivial
  | sequence parameters => exact isCode_of_ofName? h

end Colour

/-- A line made of a text by putting in escape sequences for colours. -/
inductive Tinted : List Char → List Char → Prop where
  | nil : Tinted [] []
  | char {text line : List Char} (c : Char) (h : Tinted text line) : Tinted (c :: text) (c :: line)
  | code {text line parameters : List Char} (hcode : Colour.IsCode parameters) (h : Tinted text line) :
    Tinted text (Colour.escape parameters ++ line)

section

variable {text text' line line' : List Char} {colour : Colour}

theorem Tinted.refl : ∀ text, Tinted text text
  | [] => .nil
  | c :: text => .char c (refl text)

theorem Tinted.append (h : Tinted text line) (h' : Tinted text' line') : Tinted (text ++ text') (line ++ line') := by
  induction h with
  | nil => exact h'
  | char c h ih => exact .char c ih
  | code hcode h ih =>
    rw [List.append_assoc]
    exact .code hcode ih

theorem tinted_escape {parameters : List Char} (h : Colour.IsCode parameters) :
    Tinted [] (Colour.escape parameters) := by
  have htinted := Tinted.code h .nil
  rwa [List.append_nil] at htinted

theorem Colour.IsCoded.tinted (h : colour.IsCoded) (l : Level) : Tinted [] (colour.sequences l) := by
  cases colour with
  | ofLevel =>
    cases l with
    | info => exact tinted_escape (by decide)
    | _ => exact (tinted_escape (by decide)).append (tinted_escape (by decide))
  | sequence parameters => exact tinted_escape h

end

end Transplant.Log
