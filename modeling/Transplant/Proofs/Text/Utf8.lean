import Mathlib.Tactic.IntervalCases
import Transplant.Proofs.Outcome
import Transplant.Text.Utf8

/-!
# Reading UTF-8

The bytes of a character are one piece, which is read as that character (`readUtf8_encodeChar`). So a lenient reader
gives back the text that some bytes encode, whatever stands behind them (`decodeLenient_encodeUtf8`), and so does a
strict one (`decodeFrom_encodeUtf8`). A line feed is a character of its own behind any bytes, ill-formed ones too, so
that bytes can be read line by line (`decodeLenient_append_newline`).
-/

namespace Transplant.Text

/-! ## One piece -/

theorem readContinuation_cons_of_le {more bits low high : Nat} {b : UInt8} {rest : List UInt8}
    (hlow : low ≤ b.toNat) (hhigh : b.toNat ≤ high) :
    readContinuation (more + 1) bits low high (b :: rest) =
      ((readContinuation more (bits * 64 + (b.toNat - 0x80)) 0x80 0xbf rest).1 + 1,
        (readContinuation more (bits * 64 + (b.toNat - 0x80)) 0x80 0xbf rest).2) := by
  rw [readContinuation, if_pos (by simp [hlow, hhigh])]

theorem readContinuation_cons_of_not {more bits low high : Nat} {b : UInt8} {rest : List UInt8}
    (hb : ¬ (low ≤ b.toNat ∧ b.toNat ≤ high)) :
    readContinuation (more + 1) bits low high (b :: rest) = (0, .error .continuation) := by
  rw [readContinuation, if_neg (by simpa using hb)]

theorem readContinuation_le (more bits low high : Nat) (rest : List UInt8) :
    (readContinuation more bits low high rest).1 ≤ rest.length := by
  induction more generalizing bits low high rest with
  | zero => exact Nat.zero_le _
  | succ more ih =>
    cases rest with
    | nil => exact Nat.zero_le _
    | cons b rest =>
      by_cases hb : low ≤ b.toNat ∧ b.toNat ≤ high
      · have hrest := ih (bits * 64 + (b.toNat - 0x80)) 0x80 0xbf rest
        rw [readContinuation_cons_of_le hb.1 hb.2, List.length_cons]
        omega
      · rw [readContinuation_cons_of_not hb]
        exact Nat.zero_le _

theorem readUtf8_le (b : UInt8) (rest : List UInt8) : (readUtf8 b rest).1 ≤ rest.length := by
  rw [readUtf8]
  split
  · exact Nat.zero_le _
  · split
    · exact Nat.zero_le _
    · exact readContinuation_le ..

theorem readUtf8_of_lead {b : UInt8} {lead : Utf8Lead} (hb : 0x80 ≤ b.toNat) (hlead : Utf8Lead.of? b.toNat = some lead)
    (rest : List UInt8) :
    readUtf8 b rest =
      ((readContinuation lead.more lead.bits lead.low lead.high rest).1,
        (readContinuation lead.more lead.bits lead.low lead.high rest).2.map Char.ofNat) := by
  rw [readUtf8, if_neg (by omega), hlead]

/-- One step of the lenient reader. -/
theorem decodeLenient_cons (b : UInt8) (rest : List UInt8) :
    decodeLenient (b :: rest) =
      (readUtf8 b rest).2.toOption.getD '\ufffd' :: decodeLenient (rest.drop (readUtf8 b rest).1) := by
  rw [decodeLenient]
  rcases readUtf8 b rest with ⟨n, _ | c⟩ <;> rfl

/-! ## Line feeds -/

/-- A line feed ends a piece just as the end of the bytes does, though that is another fault. -/
theorem readContinuation_append_newline (more bits low high : Nat) (hlow : 0x80 ≤ low) (rest bs : List UInt8) :
    (readContinuation more bits low high (rest ++ 10 :: bs)).1 = (readContinuation more bits low high rest).1 ∧
      (readContinuation more bits low high (rest ++ 10 :: bs)).2.toOption =
        (readContinuation more bits low high rest).2.toOption := by
  induction more generalizing bits low high rest with
  | zero => exact ⟨rfl, rfl⟩
  | succ more ih =>
    cases rest with
    | nil =>
      have hnewline : (10 : UInt8).toNat = 10 := rfl
      rw [List.nil_append, readContinuation_cons_of_not (by omega)]
      exact ⟨rfl, rfl⟩
    | cons b rest =>
      rw [List.cons_append]
      by_cases hb : low ≤ b.toNat ∧ b.toNat ≤ high
      · obtain ⟨hlength, hchar⟩ := ih (bits * 64 + (b.toNat - 0x80)) 0x80 0xbf (Nat.le_refl _) rest
        rw [readContinuation_cons_of_le hb.1 hb.2, readContinuation_cons_of_le hb.1 hb.2]
        exact ⟨congrArg (· + 1) hlength, hchar⟩
      · rw [readContinuation_cons_of_not hb, readContinuation_cons_of_not hb]
        exact ⟨rfl, rfl⟩

theorem Utf8Lead.le_low {b : Nat} {lead : Utf8Lead} (h : Utf8Lead.of? b = some lead) : 0x80 ≤ lead.low := by
  grind [Utf8Lead.of?]

theorem readUtf8_append_newline (b : UInt8) (rest bs : List UInt8) :
    (readUtf8 b (rest ++ 10 :: bs)).1 = (readUtf8 b rest).1 ∧
      (readUtf8 b (rest ++ 10 :: bs)).2.toOption = (readUtf8 b rest).2.toOption := by
  by_cases hascii : b.toNat < 0x80
  · rw [readUtf8, readUtf8, if_pos hascii, if_pos hascii]
    exact ⟨rfl, rfl⟩
  · cases hlead : Utf8Lead.of? b.toNat with
    | none =>
      rw [readUtf8, readUtf8, if_neg hascii, if_neg hascii, hlead]
      exact ⟨rfl, rfl⟩
    | some lead =>
      obtain ⟨hlength, hchar⟩ :=
        readContinuation_append_newline lead.more lead.bits lead.low lead.high (Utf8Lead.le_low hlead) rest bs
      rw [readUtf8_of_lead (by omega) hlead, readUtf8_of_lead (by omega) hlead, toOption_map, toOption_map]
      exact ⟨hlength, congrArg _ hchar⟩

/-- **Bytes up to a line feed are read as they are without what follows it**, even if they break off in a character. -/
theorem decodeLenient_append_newline (as bs : List UInt8) :
    decodeLenient (as ++ 10 :: bs) = decodeLenient as ++ '\n' :: decodeLenient bs := by
  induction h : as.length using Nat.strong_induction_on generalizing as with
  | h n ih =>
    cases as with
    | nil =>
      have hnewline : readUtf8 10 bs = (0, .ok '\n') := rfl
      rw [List.nil_append, decodeLenient_cons, hnewline, decodeLenient]
      rfl
    | cons b rest =>
      obtain ⟨hlength, hchar⟩ := readUtf8_append_newline b rest bs
      have hle := readUtf8_le b rest
      rw [List.cons_append, decodeLenient_cons, decodeLenient_cons, hlength, hchar, List.drop_append_of_le_length hle,
        ih (rest.drop (readUtf8 b rest).1).length _ _ rfl, List.cons_append]
      rw [← h, List.length_drop, List.length_cons]
      omega

/-! ## Encoded characters -/

theorem Utf8Lead.of?_two {b : Nat} (hlow : 0xc2 ≤ b) (hhigh : b ≤ 0xdf) :
    Utf8Lead.of? b = some ⟨1, b - 0xc0, 0x80, 0xbf⟩ := by
  rw [Utf8Lead.of?, if_pos (by simp [hlow, hhigh])]

/-- A lead byte of three bytes; the first continuation byte keeps out what is too small and the surrogates. -/
theorem Utf8Lead.of?_three {b : Nat} (hlow : 0xe0 ≤ b) (hhigh : b ≤ 0xef) :
    Utf8Lead.of? b =
      some ⟨2, b - 0xe0, if b = 0xe0 then 0xa0 else 0x80, if b = 0xed then 0x9f else 0xbf⟩ := by
  interval_cases b <;> rfl

/-- A lead byte of four bytes; the first continuation byte keeps out what is too small and too large. -/
theorem Utf8Lead.of?_four {b : Nat} (hlow : 0xf0 ≤ b) (hhigh : b ≤ 0xf4) :
    Utf8Lead.of? b =
      some ⟨3, b - 0xf0, if b = 0xf0 then 0x90 else 0x80, if b = 0xf4 then 0x8f else 0xbf⟩ := by
  interval_cases b <;> rfl

theorem toNat_ofNat_byte {n : Nat} (h : n < 256) : (UInt8.ofNat n).toNat = n :=
  UInt8.toNat_ofNat_of_lt' h

/-- A byte in the range of the first continuation byte gives six bits, and the bytes behind it have the full range. -/
theorem readContinuation_ofNat {more bits low high n : Nat} {rest : List UInt8} (hn : n < 64) (hlow : low ≤ n + 128)
    (hhigh : n + 128 ≤ high) :
    readContinuation (more + 1) bits low high (UInt8.ofNat (n + 128) :: rest) =
      ((readContinuation more (bits * 64 + n) 0x80 0xbf rest).1 + 1,
        (readContinuation more (bits * 64 + n) 0x80 0xbf rest).2) := by
  have hbyte := toNat_ofNat_byte (show n + 128 < 256 by omega)
  rw [readContinuation_cons_of_le (by omega) (by omega), hbyte, Nat.add_sub_cancel]

theorem readUtf8_one (n : Nat) (hn : n < 128) (bs : List UInt8) :
    readUtf8 (UInt8.ofNat n) bs = (0, .ok (Char.ofNat n)) := by
  rw [readUtf8, toNat_ofNat_byte (by omega), if_pos hn]

theorem readUtf8_two (hi lo : Nat) (hsmall : 2 ≤ hi) (hhi : hi < 32) (hlo : lo < 64) (bs : List UInt8) :
    readUtf8 (UInt8.ofNat (hi + 192)) (UInt8.ofNat (lo + 128) :: bs) = (1, .ok (Char.ofNat (hi * 64 + lo))) := by
  have hbyte := toNat_ofNat_byte (show hi + 192 < 256 by omega)
  have hlead : Utf8Lead.of? (UInt8.ofNat (hi + 192)).toNat = some ⟨1, hi, 0x80, 0xbf⟩ := by
    rw [hbyte, Utf8Lead.of?_two (by omega) (by omega), Nat.add_sub_cancel]
  rw [readUtf8_of_lead (by omega) hlead]
  dsimp only
  rw [readContinuation_ofNat hlo (by omega) (by omega)]
  rfl

theorem readUtf8_three (hi mid lo : Nat) (hhi : hi < 16) (hmid : mid < 64) (hlo : lo < 64)
    (hsmall : hi = 0 → 32 ≤ mid) (hsurrogate : hi = 13 → mid < 32) (bs : List UInt8) :
    readUtf8 (UInt8.ofNat (hi + 224)) (UInt8.ofNat (mid + 128) :: UInt8.ofNat (lo + 128) :: bs) =
      (2, .ok (Char.ofNat ((hi * 64 + mid) * 64 + lo))) := by
  have hbyte := toNat_ofNat_byte (show hi + 224 < 256 by omega)
  have hlead : Utf8Lead.of? (UInt8.ofNat (hi + 224)).toNat =
      some ⟨2, hi, if hi + 224 = 0xe0 then 0xa0 else 0x80, if hi + 224 = 0xed then 0x9f else 0xbf⟩ := by
    rw [hbyte, Utf8Lead.of?_three (by omega) (by omega), Nat.add_sub_cancel]
  rw [readUtf8_of_lead (by omega) hlead]
  dsimp only
  rw [readContinuation_ofNat hmid (by split <;> omega) (by split <;> omega),
    readContinuation_ofNat hlo (by omega) (by omega)]
  rfl

theorem readUtf8_four (top hi mid lo : Nat) (htop : top ≤ 4) (hhi : hi < 64) (hmid : mid < 64) (hlo : lo < 64)
    (hsmall : top = 0 → 16 ≤ hi) (hlarge : top = 4 → hi < 16) (bs : List UInt8) :
    readUtf8 (UInt8.ofNat (top + 240))
        (UInt8.ofNat (hi + 128) :: UInt8.ofNat (mid + 128) :: UInt8.ofNat (lo + 128) :: bs) =
      (3, .ok (Char.ofNat (((top * 64 + hi) * 64 + mid) * 64 + lo))) := by
  have hbyte := toNat_ofNat_byte (show top + 240 < 256 by omega)
  have hlead : Utf8Lead.of? (UInt8.ofNat (top + 240)).toNat =
      some ⟨3, top, if top + 240 = 0xf0 then 0x90 else 0x80, if top + 240 = 0xf4 then 0x8f else 0xbf⟩ := by
    rw [hbyte, Utf8Lead.of?_four (by omega) (by omega), Nat.add_sub_cancel]
  rw [readUtf8_of_lead (by omega) hlead]
  dsimp only
  rw [readContinuation_ofNat hhi (by split <;> omega) (by split <;> omega),
    readContinuation_ofNat hmid (by omega) (by omega), readContinuation_ofNat hlo (by omega) (by omega)]
  rfl

/-- **The bytes of a character are one piece, which is read as that character.** -/
theorem readUtf8_encodeChar (c : Char) :
    ∃ b rest, String.utf8EncodeChar c = b :: rest ∧ ∀ bs, readUtf8 b (rest ++ bs) = (rest.length, .ok c) := by
  have hvalid : c.toNat < 0xd800 ∨ 0xdfff < c.toNat ∧ c.toNat < 0x110000 := c.valid
  have hof {n : Nat} (hn : n = c.toNat) : Char.ofNat n = c := by rw [hn, Char.ofNat_toNat]
  unfold String.utf8EncodeChar
  rw [show c.val.toNat = c.toNat from rfl]
  dsimp only
  split_ifs with hone htwo hthree
  · refine ⟨_, _, rfl, fun bs => ?_⟩
    have hread := readUtf8_one c.toNat (by omega) bs
    rwa [hof rfl] at hread
  · refine ⟨_, _, rfl, fun bs => ?_⟩
    have hread := readUtf8_two (c.toNat / 64 % 32) (c.toNat % 64) (by omega) (by omega) (by omega) bs
    rwa [hof (by omega)] at hread
  · refine ⟨_, _, rfl, fun bs => ?_⟩
    have hread := readUtf8_three (c.toNat / 4096 % 16) (c.toNat / 64 % 64) (c.toNat % 64)
      (by omega) (by omega) (by omega) (by omega) (by omega) bs
    rwa [hof (by omega)] at hread
  · refine ⟨_, _, rfl, fun bs => ?_⟩
    have hread := readUtf8_four (c.toNat / 262144 % 8) (c.toNat / 4096 % 64) (c.toNat / 64 % 64)
      (c.toNat % 64) (by omega) (by omega) (by omega) (by omega) (by omega) (by omega) bs
    rwa [hof (by omega)] at hread

theorem decodeLenient_encodeChar (c : Char) (bs : List UInt8) :
    decodeLenient (String.utf8EncodeChar c ++ bs) = c :: decodeLenient bs := by
  obtain ⟨b, rest, hbytes, hread⟩ := readUtf8_encodeChar c
  rw [hbytes, List.cons_append, decodeLenient_cons, hread, List.drop_left]
  rfl

theorem decodeFrom_encodeChar (last : Bool) (position : Nat) (c : Char) (bs : List UInt8) :
    ∃ next, decodeFrom last position (String.utf8EncodeChar c ++ bs) =
      (decodeFrom last next bs).map fun (cs, left) => (c :: cs, left) := by
  obtain ⟨b, rest, hbytes, hread⟩ := readUtf8_encodeChar c
  refine ⟨position + rest.length + 1, ?_⟩
  rw [hbytes, List.cons_append, decodeFrom, hread]
  dsimp only
  rw [List.drop_left]

theorem toList_loop (bs : ByteArray) (i : Nat) (r : List UInt8) :
    ByteArray.toList.loop bs i r = r.reverse ++ bs.data.toList.drop i := by
  fun_induction ByteArray.toList.loop bs i r with
  | case1 i r hi ih =>
    have hlength : i < bs.data.toList.length := by simpa using hi
    rw [ih, List.drop_eq_getElem_cons hlength]
    simp [ByteArray.get!, hi]
  | case2 i r hi =>
    rw [List.drop_eq_nil_of_le (by simpa using Nat.le_of_not_lt hi)]
    simp

theorem encodeUtf8_eq (s : String) : encodeUtf8 s = s.toList.flatMap String.utf8EncodeChar := by
  have hbytes : s.toUTF8 = s.toList.utf8Encode := String.utf8Encode_toList.symm
  rw [encodeUtf8, ByteArray.toList, toList_loop, hbytes, List.utf8Encode, List.toList_data_toByteArray]
  rfl

theorem length_encodeUtf8_of_ascii {s : String} (h : ∀ c ∈ s.toList, c.toNat < 128) :
    (encodeUtf8 s).length = s.toList.length := by
  rw [encodeUtf8_eq, List.length_flatMap]
  have hone : ∀ c ∈ s.toList, (String.utf8EncodeChar c).length = 1 := fun c hc => by
    rw [String.length_utf8EncodeChar, Char.utf8Size_eq_one_iff]
    exact Nat.le_of_lt_succ (h c hc)
  rw [List.map_congr_left hone, List.map_const', List.sum_replicate_nat, Nat.mul_one]

/-- **A strict reader takes the bytes of a text as that text**, with nothing left over. -/
theorem decodeFrom_encodeUtf8 (last : Bool) (position : Nat) (s : String) :
    decodeFrom last position (encodeUtf8 s) = .ok (s.toList, []) := by
  rw [encodeUtf8_eq]
  induction s.toList generalizing position with
  | nil => rw [List.flatMap_nil, decodeFrom]
  | cons c cs ih =>
    obtain ⟨next, hnext⟩ := decodeFrom_encodeChar last position c (cs.flatMap String.utf8EncodeChar)
    rw [List.flatMap_cons, hnext, ih]
    rfl

/-- **The bytes of a text are read as that text.** -/
theorem decodeLenient_encodeUtf8 (s : String) (bs : List UInt8) :
    decodeLenient (encodeUtf8 s ++ bs) = s.toList ++ decodeLenient bs := by
  rw [encodeUtf8_eq]
  induction s.toList with
  | nil => rfl
  | cons c cs ih => rw [List.flatMap_cons, List.append_assoc, decodeLenient_encodeChar, ih, List.cons_append]

theorem encodeUtf8_injective {s t : String} (h : encodeUtf8 s = encodeUtf8 t) : s = t := by
  have hread (s : String) : decodeLenient (encodeUtf8 s) = s.toList := by
    have hwhole := decodeLenient_encodeUtf8 s []
    have hnil : decodeLenient [] = [] := by rw [decodeLenient]
    rwa [hnil, List.append_nil, List.append_nil] at hwhole
  rw [← String.toList_inj, ← hread, ← hread, h]

end Transplant.Text
