import Mathlib.Algebra.Group.Nat.Defs
import Mathlib.Data.List.Induction
import Mathlib.Data.List.TakeWhile
import Transplant.Number.Numeral
import Transplant.Proofs.Text.Lines

/-!
# Decimal numerals

A number reads back from its numeral (`valueOf?_digits`), and where no digit follows, the numeral is what a text
has in front (`takeWhile_digits`); with at most 4300 digits it is also read as a numeral (`parse_decimal`). So texts
that begin with the numerals of two numbers, and go on with something else than a digit, are different
(`eq_of_digits_append`). Digits of any script are read as the number that they write (`ofDigits_eq_ok`).
-/

namespace Transplant.Text

theorem digits_of_lt {n : Nat} (h : n < 10) : digits n = [asciiDigit n] := by
  rw [digits, if_pos h]

theorem digits_of_le {n : Nat} (h : 10 ≤ n) : digits n = digits (n / 10) ++ [asciiDigit n] := by
  rw [digits, if_neg (Nat.not_lt.2 h)]

theorem digitValue?_asciiDigit (n : Nat) : digitValue? (asciiDigit n) = some (n % 10) := by
  have hten : ∀ d < 10, digitValue? (Char.ofNat (48 + d)) = some d := by decide
  exact hten (n % 10) (Nat.mod_lt n (by decide))

theorem isDigit_asciiDigit (n : Nat) : isDigit (asciiDigit n) = true := by
  rw [isDigit, digitValue?_asciiDigit]
  rfl

theorem isDigit_of_mem_digits {n : Nat} {c : Char} (hc : c ∈ digits n) : isDigit c = true := by
  induction n using digits.induct with
  | case1 n h =>
    rw [digits_of_lt h, List.mem_singleton] at hc
    rw [hc, isDigit_asciiDigit]
  | case2 n h ih =>
    rw [digits_of_le (Nat.not_lt.1 h), List.mem_append, List.mem_singleton] at hc
    rcases hc with hc | hc
    · exact ih hc
    · rw [hc, isDigit_asciiDigit]

theorem valueOf?_append_singleton (cs : List Char) (c : Char) :
    valueOf? (cs ++ [c]) = (valueOf? cs).bind fun n => (digitValue? c).map (10 * n + ·) := by
  rw [valueOf?, List.foldl_append]
  rfl

theorem isDigit_of_valueOf? {cs : List Char} {n : Nat} (h : valueOf? cs = some n) : ∀ c ∈ cs, isDigit c = true := by
  induction cs using List.reverseRecOn generalizing n with
  | nil => nofun
  | append_singleton cs c ih =>
    rw [valueOf?_append_singleton, Option.bind_eq_some_iff] at h
    obtain ⟨front, hfront, hlast⟩ := h
    obtain ⟨d, hd, -⟩ := Option.map_eq_some_iff.1 hlast
    intro x hx
    rcases List.mem_append.1 hx with hx | hx
    · exact ih hfront x hx
    · rw [List.mem_singleton.1 hx, isDigit, hd]
      rfl

/-- **A number reads back from its numeral.** -/
theorem valueOf?_digits (n : Nat) : valueOf? (digits n) = some n := by
  induction n using digits.induct with
  | case1 n h =>
    rw [digits_of_lt h, ← List.nil_append [asciiDigit n], valueOf?_append_singleton,
      digitValue?_asciiDigit, Nat.mod_eq_of_lt h]
    simp [valueOf?]
  | case2 n h ih =>
    rw [digits_of_le (Nat.not_lt.1 h), valueOf?_append_singleton, ih, digitValue?_asciiDigit]
    simp only [Option.bind_some, Option.map_some, Option.some.injEq]
    omega

theorem takeWhile_digits (n : Nat) {rest : List Char} (hrest : rest.takeWhile isDigit = []) :
    (digits n ++ rest).takeWhile isDigit = digits n := by
  rw [List.takeWhile_append_of_pos fun c hc => isDigit_of_mem_digits hc, hrest, List.append_nil]

theorem eq_of_digits_append {m n : Nat} {rest rest' : List Char} (hrest : rest.takeWhile isDigit = [])
    (hrest' : rest'.takeWhile isDigit = []) (heq : digits m ++ rest = digits n ++ rest') : m = n := by
  have hdigits : digits m = digits n := by
    rw [← takeWhile_digits m hrest, heq, takeWhile_digits n hrest']
  have hvalue := valueOf?_digits m
  rw [hdigits, valueOf?_digits] at hvalue
  exact (Option.some.inj hvalue).symm

theorem digits_ne_nil (n : Nat) : digits n ≠ [] := by
  rcases Nat.lt_or_ge n 10 with h | h
  · rw [digits_of_lt h]
    simp
  · rw [digits_of_le h]
    simp

/-- A number has no more digits than a power of ten that is greater has zeros. -/
theorem length_digits_le_iff {n k : Nat} (hk : 0 < k) : (digits n).length ≤ k ↔ n < 10 ^ k := by
  induction n using digits.induct generalizing k with
  | case1 n h =>
    have hten : 10 ^ 1 ≤ 10 ^ k := Nat.pow_le_pow_right (by decide) hk
    rw [digits_of_lt h, List.length_singleton]
    exact iff_of_true hk (by omega)
  | case2 n h ih =>
    obtain ⟨k, rfl⟩ := Nat.exists_eq_add_of_le' hk
    rw [digits_of_le (Nat.not_lt.1 h), List.length_append, List.length_singleton, Nat.add_le_add_iff_right,
      Nat.pow_succ, ← Nat.div_lt_iff_lt_mul (by decide)]
    rcases Nat.eq_zero_or_pos k with rfl | hk
    · rw [Nat.le_zero, List.length_eq_zero_iff, Nat.pow_zero, Nat.lt_one_iff]
      exact iff_of_false (digits_ne_nil _) (by omega)
    · exact ih hk

theorem lt_length_digits_pow {k : Nat} (hk : 0 < k) : k < (digits (10 ^ k)).length := by
  rw [← Nat.not_le, length_digits_le_iff hk]
  exact Nat.lt_irrefl _

/-! ## Digits of any script -/

theorem digitValue?_lt_ten {c : Char} {v : Nat} (h : digitValue? c = some v) : v < 10 := by
  obtain ⟨z, hz, rfl⟩ := Option.map_eq_some_iff.1 h
  have hrange := List.find?_some hz
  simp only [Bool.and_eq_true, decide_eq_true_eq] at hrange
  omega

theorem numeral_digitValue? {c : Char} {v : Nat} (h : digitValue? c = some v) :
    Numeral.digitValue? 10 c = some v := by
  rw [Numeral.digitValue?, h, Option.some_or, Option.filter_some, if_pos (by simpa using digitValue?_lt_ten h)]

theorem valueOf?_eq_valueIn {ds : List Char} (hds : ∀ d ∈ ds, isDigit d = true) :
    valueOf? ds = some (Numeral.valueIn 10 ds) := by
  have hfrom (n : Nat) : ds.foldl (fun acc c => acc.bind fun n => (digitValue? c).map (10 * n + ·)) (some n) =
      some (ds.foldl (fun n c => 10 * n + (Numeral.digitValue? 10 c).getD 0) n) := by
    induction ds generalizing n with
    | nil => rfl
    | cons d ds ih =>
      obtain ⟨v, hv⟩ := Option.isSome_iff_exists.1 (hds d List.mem_cons_self)
      rw [List.foldl_cons, List.foldl_cons, Option.bind_some, hv, Option.map_some, numeral_digitValue? hv,
        ih fun e he => hds e (List.mem_cons_of_mem _ he)]
      rfl
  exact hfrom 0

theorem ofDigits_eq_ok {ds : List Char} (hds : ∀ d ∈ ds, isDigit d = true) (hlength : ds.length ≤ Numeral.maxDigits) :
    ∃ n, valueOf? ds = some n ∧ Numeral.ofDigits ds = .ok n := by
  refine ⟨_, valueOf?_eq_valueIn hds, ?_⟩
  rw [Numeral.ofDigits, if_neg (Nat.not_lt.2 hlength)]

theorem ofDigits_eq_error {ds : List Char} (hlength : Numeral.maxDigits < ds.length) :
    Numeral.ofDigits ds = .error (.tooLong ds.length) := by
  rw [Numeral.ofDigits, if_pos hlength]

/-! ## Numerals -/

theorem exists_of_mem_digits {n : Nat} {c : Char} (hc : c ∈ digits n) : ∃ d < 10, c = Char.ofNat (48 + d) := by
  induction n using digits.induct with
  | case1 n h =>
    rw [digits_of_lt h, List.mem_singleton] at hc
    exact ⟨n % 10, Nat.mod_lt n (by decide), hc⟩
  | case2 n h ih =>
    rw [digits_of_le (Nat.not_lt.1 h), List.mem_append, List.mem_singleton] at hc
    rcases hc with hc | hc
    · exact ih hc
    · exact ⟨n % 10, Nat.mod_lt n (by decide), hc⟩

theorem splitSign_of_unsigned {cs : List Char} (h : ∀ c ∈ cs.head?, c ≠ '-' ∧ c ≠ '+') :
    Numeral.splitSign cs = (false, cs) := by
  unfold Numeral.splitSign
  split
  · exact absurd rfl (h _ rfl).1
  · exact absurd rfl (h _ rfl).2
  · rfl

/-- Nothing is dropped in front of digits among which there is no mark of the base. -/
theorem dropMark_of_unmarked {base : Nat} {cs : List Char}
    (h : ∀ c ∈ cs, ∀ mark ∈ Numeral.baseMarks, mark.1 = base → c ∉ mark.2) : Numeral.dropMark base cs = cs := by
  unfold Numeral.dropMark
  split
  · next zero c rest =>
    rw [if_neg]
    intro hmarked
    obtain ⟨-, hc⟩ := Bool.and_eq_true_iff.1 hmarked
    obtain ⟨mark, hmark, hc⟩ := List.any_eq_true.1 hc
    rw [Bool.and_eq_true, beq_iff_eq, List.contains_iff_mem] at hc
    exact h c (by simp) mark hmark hc.1 hc.2
  · rfl

theorem dropMark_ten (cs : List Char) : Numeral.dropMark 10 cs = cs :=
  dropMark_of_unmarked fun _ _ mark hmark hten => by
    have hbases : ∀ m ∈ Numeral.baseMarks, m.1 ≠ 10 := by decide
    exact absurd hten (hbases mark hmark)

theorem parseIn_of_digits {base : Nat} {ds : List Char} (hne : ds ≠ [])
    (hds : ∀ d ∈ ds, isWhiteSpace d = false ∧ d ≠ '-' ∧ d ≠ '+' ∧ d ≠ '_' ∧ (Numeral.digitValue? base d).isSome = true)
    (hmark : Numeral.dropMark base ds = ds) (hlength : Numeral.isLimited base = true → ds.length ≤ Numeral.maxDigits) :
    Numeral.parseIn base (String.ofList ds) = .ok (Numeral.valueIn base ds) := by
  have hstart : ds.dropWhile isWhiteSpace = ds :=
    List.dropWhile_eq_self_iff.2 fun hpos => by simpa using (hds _ (List.getElem_mem hpos)).1
  have hsign : Numeral.splitSign ds = (false, ds) :=
    splitSign_of_unsigned fun d hd =>
      ⟨(hds d (List.mem_of_head? hd)).2.1, (hds d (List.mem_of_head? hd)).2.2.1⟩
  have hrun : ds.takeWhile (fun d => d == '_' || (Numeral.digitValue? base d).isSome) = ds :=
    List.takeWhile_eq_self_iff.2 fun d hd => by simp [(hds d hd).2.2.2.2]
  have hgroups : splitOn '_' ds = [ds] := by
    rw [splitOn_eq]
    exact List.splitOn_eq_singleton fun hmem => (hds _ hmem).2.2.2.1 rfl
  have hlimit : ¬ (Numeral.isLimited base = true ∧ Numeral.maxDigits < ds.length) :=
    fun ⟨hlimited, hlong⟩ => Nat.not_lt.2 (hlength hlimited) hlong
  rw [Numeral.parseIn, String.toList_ofList, hstart, hsign]
  dsimp only
  rw [hmark, hrun, hgroups]
  simp [hne, hlimit]

theorem parse_decimal {n : Nat} (hlength : (digits n).length ≤ Numeral.maxDigits) :
    Numeral.parse (decimal n) = .ok n := by
  have hchars : ∀ c ∈ digits n, isWhiteSpace c = false ∧ c ≠ '-' ∧ c ≠ '+' ∧ c ≠ '_' ∧
      (Numeral.digitValue? 10 c).isSome = true := by
    intro c hc
    obtain ⟨d, hd, rfl⟩ := exists_of_mem_digits hc
    have hten : ∀ d < 10, isWhiteSpace (Char.ofNat (48 + d)) = false ∧ Char.ofNat (48 + d) ≠ '-' ∧
        Char.ofNat (48 + d) ≠ '+' ∧ Char.ofNat (48 + d) ≠ '_' ∧
        (Numeral.digitValue? 10 (Char.ofNat (48 + d))).isSome = true := by decide
    exact hten d hd
  have hvalue : Numeral.valueIn 10 (digits n) = n := by
    have h := valueOf?_eq_valueIn fun d hd => isDigit_of_mem_digits (n := n) hd
    rw [valueOf?_digits] at h
    exact (Option.some.inj h).symm
  rw [Numeral.parse, decimal, parseIn_of_digits (digits_ne_nil n) hchars (dropMark_ten _) fun _ => hlength, hvalue]

theorem write_eq_ok {n : Int} (hlength : (digits n.natAbs).length ≤ Numeral.maxDigits) :
    Numeral.write n = .ok (signed n) := by
  rw [Numeral.write, if_neg (Nat.not_lt.2 hlength)]

theorem write_eq_error {n : Int} (hlength : Numeral.maxDigits < (digits n.natAbs).length) :
    Numeral.write n = .error .tooLarge := by
  rw [Numeral.write, if_pos hlength]

end Transplant.Text
