import Mathlib.Data.Bool.AllAny
import Mathlib.Tactic.Ring
import Transplant.Proofs.Text.Decimal
import Transplant.Proofs.Yaml.Node
import Transplant.Proofs.Yaml.Source

/-!
# Documents with a number

A number in base sixteen may have more digits than can be read or written in base ten: its digits are a numeral,
however many there are (`IsHexadecimal.intOf`), and a document that gives it to its only field is read as this number
(`load_numberDocument`).
-/

namespace Transplant.Yaml

/-! ## Base sixteen -/

/-- The digits of base sixteen. -/
def hexDigits : List Char :=
  ['0', '1', '2', '3', '4', '5', '6', '7', '8', '9', 'a', 'b', 'c', 'd', 'e', 'f', 'A', 'B', 'C', 'D', 'E', 'F']

/-- Whether a text is a numeral of base sixteen. -/
def IsHexadecimal (ds : List Char) : Prop :=
  ds ≠ [] ∧ ∀ d ∈ ds, d ∈ hexDigits

namespace IsHexadecimal

variable {ds : List Char}

/-- What holds of the mark and of each digit holds of each character of a marked numeral. -/
theorem forall_marked {p : Char → Prop} (h : IsHexadecimal ds) (hp : ∀ c ∈ '0' :: 'x' :: hexDigits, p c) :
    ∀ c ∈ '0' :: 'x' :: ds, p c := by
  rintro c (_ | ⟨_, _ | ⟨_, hc⟩⟩)
  · exact hp '0' (by simp)
  · exact hp 'x' (by simp)
  · exact hp c (by simp [h.2 c hc])

theorem isWord (h : IsHexadecimal ds) : IsWord ('0' :: 'x' :: ds) :=
  h.forall_marked (List.all_iff_forall_prop.1 (by decide))

theorem ofPlain (h : IsHexadecimal ds) : Tag.ofPlain ('0' :: 'x' :: ds) = .int := by
  have hwhole : Tag.dropFinalBreak ('0' :: 'x' :: ds) = '0' :: 'x' :: ds := by
    have hbreak : ∀ c ∈ '0' :: 'x' :: ds, c ≠ '\n' :=
      h.forall_marked (List.all_iff_forall_prop.1 (by decide))
    rw [Tag.dropFinalBreak]
    split
    · next hlast => exact absurd rfl (hbreak _ (List.mem_of_getLast? hlast))
    · rfl
  have hbool : (Tag.boolWords.map (·.1)).any (fun w => w.toList == '0' :: 'x' :: ds) = false := rfl
  have hfloat : Tag.isFloat ('0' :: 'x' :: ds) = false := rfl
  have hint : Tag.isInt ('0' :: 'x' :: ds) = true := by
    have hdigit : ∀ d ∈ hexDigits, (Text.hexValue? d).isSome = true :=
      List.all_eq_true.1 (by decide)
    have hread : Tag.isInt ('0' :: 'x' :: ds) =
        (!ds.isEmpty && ds.all fun c => c == '_' || (Text.hexValue? c).isSome) := rfl
    simp only [hread, Bool.and_eq_true, Bool.not_eq_true', List.isEmpty_eq_false_iff, List.all_eq_true, Bool.or_eq_true]
    exact ⟨h.1, fun d hd => .inr (hdigit d (h.2 d hd))⟩
  rw [Tag.ofPlain, hwhole, if_neg (by simp), Tag.ofLine]
  simp only [hbool, hfloat, hint, Bool.false_eq_true, if_false, if_true]

/-- A numeral in base sixteen has the value of its digits, whatever their number. -/
theorem intOf (h : IsHexadecimal ds) : intOf ('0' :: 'x' :: ds) = .ok (Numeral.valueIn 16 ds) := by
  have hdigit : ∀ d ∈ hexDigits, Text.isWhiteSpace d = false ∧ d ≠ '-' ∧ d ≠ '+' ∧ d ≠ '_' ∧
      (Numeral.digitValue? 16 d).isSome = true := List.all_iff_forall_prop.1 (by decide)
  have hunmarked : ∀ d ∈ hexDigits, ∀ mark ∈ Numeral.baseMarks, mark.1 = 16 → d ∉ mark.2 :=
    List.all_iff_forall_prop.1 (by decide)
  have hmark : Numeral.dropMark 16 ds = ds := Text.dropMark_of_unmarked fun d hd => hunmarked d (h.2 d hd)
  have hlimit : Numeral.isLimited 16 = false := rfl
  have hparse : Numeral.parseIn 16 (String.ofList ds) = .ok (Numeral.valueIn 16 ds) :=
    Text.parseIn_of_digits h.1 (fun d hd => hdigit d (h.2 d hd)) hmark fun hlimited =>
      absurd (hlimit.symm.trans hlimited) Bool.false_ne_true
  have hfilter : ('0' :: 'x' :: ds).filter (· != '_') = '0' :: 'x' :: ds :=
    List.filter_eq_self.2 (h.forall_marked (List.all_eq_true.1 (by decide)))
  rw [Yaml.intOf, hfilter]
  simp [Tag.dropSign, hparse, Except.mapError, Except.map]

end IsHexadecimal

/-- A one with zeros behind it is a power of the base. -/
theorem valueIn_one_zeros (k : Nat) : Numeral.valueIn 16 ('1' :: List.replicate k '0') = 16 ^ k := by
  have hone : (Numeral.digitValue? 16 '1').getD 0 = 1 := by decide
  have hzero : (Numeral.digitValue? 16 '0').getD 0 = 0 := by decide
  have hshift (n : Nat) : (List.replicate k '0').foldl (fun n c => 16 * n + (Numeral.digitValue? 16 c).getD 0) n =
      n * 16 ^ k := by
    induction k generalizing n with
    | zero => simp
    | succ k ih =>
      rw [List.replicate_succ, List.foldl_cons, ih, hzero, Nat.pow_succ]
      ring
  rw [Numeral.valueIn, List.foldl_cons, hshift, hone, Nat.mul_zero, Nat.zero_add, Nat.one_mul]

/-! ## The document -/

/-- A document that gives a numeral of base sixteen to its only field, which stands inside another one. -/
def numberDocument (ds : List Char) : String :=
  String.ofList ("diff:\n  strip_slashes: 0x".toList ++ ds ++ ['\n'])

namespace Numbered

variable {ds : List Char}

/-- The name of the outer field. -/
def outerName : List Char := ['d', 'i', 'f', 'f']

/-- The name of the inner field. -/
def innerName : List Char := ['s', 't', 'r', 'i', 'p', '_', 's', 'l', 'a', 's', 'h', 'e', 's']

/-- The document behind the inner field. -/
def behindInner (ds : List Char) : List Char :=
  ' ' :: ('0' :: 'x' :: ds ++ ['\n'])

/-- The document behind the outer field. -/
def behindOuter (ds : List Char) : List Char :=
  ['\n', ' ', ' '] ++ innerName ++ ':' :: behindInner ds

theorem toList_numberDocument (ds : List Char) : (numberDocument ds).toList = outerName ++ ':' :: behindOuter ds := by
  have hfront : "diff:\n  strip_slashes: 0x".toList = outerName ++ ':' :: (behindOuter []).dropLast := by
    decide
  refine String.toList_ofList.trans ?_
  rw [hfront]
  simp [behindOuter, behindInner, innerName]

/-- What holds of each character that may occur holds of each one of the document. -/
theorem forall_numberDocument {p : Char → Prop} (h : IsHexadecimal ds)
    (hp : ∀ c ∈ "diff:\n  strip_slashes: 0x".toList ++ hexDigits ++ ['\n'], p c) :
    ∀ c ∈ (numberDocument ds).toList, p c := by
  intro c hc
  have hchars : (numberDocument ds).toList = "diff:\n  strip_slashes: 0x".toList ++ ds ++ ['\n'] :=
    String.toList_ofList
  refine hp c ?_
  rw [hchars, List.mem_append, List.mem_append] at hc
  rw [List.mem_append, List.mem_append]
  exact hc.imp_left (Or.imp_right (h.2 c))

theorem ofBytes_numberDocument (h : IsHexadecimal ds) (hlength : ds.length ≤ 4000) :
    Source.ofBytes (Text.encodeUtf8 (numberDocument ds)) = ⟨(numberDocument ds).toList, none⟩ := by
  have hcount : (numberDocument ds).toList.length = ds.length + 26 := by
    rw [toList_numberDocument]
    simp [outerName, innerName, behindOuter, behindInner]
  have hascii : ∀ c ∈ (numberDocument ds).toList, c.toNat < 128 :=
    forall_numberDocument h (List.all_iff_forall_prop.1 (by decide))
  have hreturn : ∀ c ∈ (numberDocument ds).toList, c ≠ '\r' :=
    forall_numberDocument h (List.all_iff_forall_prop.1 (by decide))
  have hallowed : ∀ c ∈ (numberDocument ds).toList, isAllowed c = true :=
    forall_numberDocument h (List.all_eq_true.1 (by decide))
  have hbytes := Text.length_encodeUtf8_of_ascii hascii
  refine Source.ofBytes_encodeUtf8 ?_ ?_ ?_ (fun hmem => hreturn _ hmem rfl) hallowed
  · rw [hcount, Source.blockSize]
    omega
  · rw [hbytes, hcount, Text.Stream.pieceSize]
    omega
  · rw [← List.length_pos_iff, hbytes, hcount]
    omega

/-! ### Tokens -/

/-- The lexer with all tokens taken. -/
def emptied (l : Lexer) : Lexer :=
  { l with tokens := [], taken := l.taken + l.tokens.length }

/-- The lexer in front of the document. -/
def begun (ds : List Char) : Lexer where
  cursor := ⟨outerName ++ ':' :: behindOuter ds, 0, 0, 0, none⟩

/-- The lexer in front of the colon of the outer field, whose name may be a key. -/
def outerNamed (ds : List Char) : Lexer where
  cursor := ⟨':' :: behindOuter ds, 4, 0, 4, none⟩
  tokens := [⟨.scalar ⟨outerName, true, none⟩, ⟨0, 0⟩, ⟨0, 4⟩⟩]
  allowKey := false
  keys := [(0, ⟨0, false, 0, ⟨0, 0⟩⟩)]

/-- The lexer behind the outer field. -/
def outer (ds : List Char) : Lexer where
  cursor := ⟨behindOuter ds, 5, 0, 5, none⟩
  tokens := [⟨.blockMappingStart, ⟨0, 0⟩, ⟨0, 0⟩⟩, ⟨.key, ⟨0, 0⟩, ⟨0, 0⟩⟩,
    ⟨.scalar ⟨outerName, true, none⟩, ⟨0, 0⟩, ⟨0, 4⟩⟩, ⟨.value, ⟨0, 4⟩, ⟨0, 5⟩⟩]
  indent := 0
  indents := [-1]
  allowKey := false

/-- The lexer in front of the colon of the inner field. -/
def innerNamed (ds : List Char) : Lexer where
  cursor := ⟨':' :: behindInner ds, 21, 1, 15, none⟩
  tokens := [⟨.scalar ⟨innerName, true, none⟩, ⟨1, 2⟩, ⟨1, 15⟩⟩]
  taken := 4
  indent := 0
  indents := [-1]
  allowKey := false
  keys := [(0, ⟨4, false, 8, ⟨1, 2⟩⟩)]

/-- The lexer behind the inner field. -/
def inner (ds : List Char) : Lexer where
  cursor := ⟨behindInner ds, 22, 1, 16, none⟩
  tokens := [⟨.blockMappingStart, ⟨1, 2⟩, ⟨1, 2⟩⟩, ⟨.key, ⟨1, 2⟩, ⟨1, 2⟩⟩,
    ⟨.scalar ⟨innerName, true, none⟩, ⟨1, 2⟩, ⟨1, 15⟩⟩, ⟨.value, ⟨1, 15⟩, ⟨1, 16⟩⟩]
  taken := 4
  indent := 2
  indents := [0, -1]
  allowKey := false

/-- The lexer behind the number. -/
def read (ds : List Char) : Lexer where
  cursor := ⟨[], 23 + ('x' :: ds).length + 2, 2, 0, none⟩
  tokens := [⟨.scalar ⟨'0' :: 'x' :: ds, true, none⟩, ⟨1, 17⟩, ⟨2, 0⟩⟩]
  taken := 8
  indent := 2
  indents := [0, -1]

/-- The lexer at the end, where it has closed both mappings. -/
def ended (ds : List Char) : Lexer where
  cursor := ⟨[], 23 + ('x' :: ds).length + 2, 2, 0, none⟩
  tokens := [⟨.blockEnd, ⟨2, 0⟩, ⟨2, 0⟩⟩, ⟨.blockEnd, ⟨2, 0⟩, ⟨2, 0⟩⟩, ⟨.streamEnd, ⟨2, 0⟩, ⟨2, 0⟩⟩]
  taken := 9
  allowKey := false
  finished := true

theorem start_numberDocument (ds : List Char) : Lexer.start ⟨(numberDocument ds).toList, none⟩ = begun ds := by
  rw [toList_numberDocument]
  rfl

theorem next_begun (ds : List Char) : (begun ds).next = .ok (outerNamed ds) := by
  let saved : Lexer := { begun ds with keys := [(0, ⟨0, false, 0, ⟨0, 0⟩⟩)] }
  have hword : IsWord outerName := List.all_iff_forall_prop.1 (by decide)
  have hstarts : StartsWord 'd' := ⟨rfl, by decide⟩
  have hfound : (Lexer.skipToToken ((begun ds).cursor.rest.length + 1) (begun ds)).dropStaleKeys = .ok (begun ds) := rfl
  have hsaved : (begun ds).saveKey = .ok saved := rfl
  have hplain : readPlain false (-1) saved.cursor =
      (⟨outerName, true, none⟩, false, ⟨':' :: behindOuter ds, 4, 0, 4, none⟩) :=
    hword.readPlain (by decide) rfl rfl (.inl rfl)
  exact Lexer.next_of_word hfound rfl rfl hstarts hsaved hplain rfl

theorem fill_begun (ds : List Char) : (begun ds).fill ((begun ds).cursor.rest.length + 2) = .ok (outer ds) := by
  have hvalue : (outerNamed ds).valueIndicator = .ok (outer ds) := rfl
  have hfound : (Lexer.skipToToken ((outerNamed ds).cursor.rest.length + 1) (outerNamed ds)).dropStaleKeys =
      .ok (outerNamed ds) := rfl
  have hcolon : (outerNamed ds).next = .ok (outer ds) :=
    Lexer.next_of_colon hfound rfl (by decide : 4 ≠ 0) rfl rfl hvalue rfl
  exact Lexer.fill_of_key rfl rfl (next_begun ds) rfl rfl rfl rfl hcolon rfl rfl _

theorem skip_outer (ds : List Char) :
    Lexer.skipToToken ((behindOuter ds).length + 1) (emptied (outer ds)) =
      { emptied (outer ds) with cursor := ⟨innerName ++ ':' :: behindInner ds, 8, 1, 2, none⟩, allowKey := true } := by
  let c : Cursor := ⟨' ' :: ' ' :: innerName ++ ':' :: behindInner ds, 6, 1, 0, none⟩
  have hfront : (outer ds).cursor.skipSpaces.skipComment = (outer ds).cursor := rfl
  have hbreak : isBreak (outer ds).cursor.peek = true := rfl
  have hbehind : (outer ds).cursor.readBreak.2 = c := rfl
  have hspaces : c.skipSpaces.skipComment = ⟨innerName ++ ':' :: behindInner ds, 8, 1, 2, none⟩ := rfl
  have hword : isBreak (⟨innerName ++ ':' :: behindInner ds, 8, 1, 2, none⟩ : Cursor).peek = false := rfl
  have hmore : (behindOuter ds).length = (behindOuter ds).tail.length + 1 := rfl
  refine (Lexer.skipToToken_of_break (l := emptied (outer ds)) hfront hbreak hbehind _).trans ?_
  rw [hmore]
  exact Lexer.skipToToken_of_word hspaces hword _

theorem next_outer (ds : List Char) : (emptied (outer ds)).next = .ok (innerNamed ds) := by
  let found : Lexer :=
    { emptied (outer ds) with cursor := ⟨innerName ++ ':' :: behindInner ds, 8, 1, 2, none⟩, allowKey := true }
  let saved : Lexer := { found with keys := [(0, ⟨4, false, 8, ⟨1, 2⟩⟩)] }
  have hword : IsWord innerName := List.all_iff_forall_prop.1 (by decide)
  have hstarts : StartsWord 's' := ⟨rfl, by decide⟩
  have hstale : found.dropStaleKeys = .ok found := rfl
  have hsaved : found.saveKey = .ok saved := rfl
  have hplain : readPlain false 0 saved.cursor =
      (⟨innerName, true, none⟩, false, ⟨':' :: behindInner ds, 21, 1, 15, none⟩) :=
    hword.readPlain (by decide) rfl rfl (.inl rfl)
  have hfound : (Lexer.skipToToken ((behindOuter ds).length + 1) (emptied (outer ds))).dropStaleKeys = .ok found := by
    rw [skip_outer, hstale]
  exact Lexer.next_of_word hfound rfl rfl hstarts hsaved hplain rfl

theorem fill_outer (ds : List Char) : (emptied (outer ds)).fill ((behindOuter ds).length + 2) = .ok (inner ds) := by
  have hvalue : (innerNamed ds).valueIndicator = .ok (inner ds) := rfl
  have hfound : (Lexer.skipToToken ((innerNamed ds).cursor.rest.length + 1) (innerNamed ds)).dropStaleKeys =
      .ok (innerNamed ds) := rfl
  have hcolon : (innerNamed ds).next = .ok (inner ds) :=
    Lexer.next_of_colon hfound rfl (by decide : 15 ≠ 0) rfl rfl hvalue rfl
  exact Lexer.fill_of_key rfl rfl (next_outer ds) rfl rfl rfl rfl hcolon rfl rfl _

theorem next_inner (h : IsWord ('0' :: 'x' :: ds)) : (emptied (inner ds)).next = .ok (read ds) := by
  let found : Lexer := { emptied (inner ds) with cursor := ⟨'0' :: 'x' :: ds ++ ['\n'], 23, 1, 17, none⟩ }
  have hstarts : StartsWord '0' := ⟨rfl, by decide⟩
  have hfound : (Lexer.skipToToken ((behindInner ds).length + 1) (emptied (inner ds))).dropStaleKeys = .ok found := rfl
  have hsaved : found.saveKey = .ok found := rfl
  have hplain : readPlain false 2 found.cursor =
      (⟨'0' :: 'x' :: ds, true, none⟩, true, ⟨[], 23 + ('x' :: ds).length + 2, 2, 0, none⟩) :=
    h.readPlain (by decide) rfl rfl (.inr (Int.zero_le_ofNat 2))
  exact Lexer.next_of_word hfound rfl rfl hstarts hsaved hplain rfl

theorem fill_inner (h : IsWord ('0' :: 'x' :: ds)) :
    (emptied (inner ds)).fill ((behindInner ds).length + 2) = .ok (read ds) :=
  Lexer.fill_of_next rfl rfl (next_inner h) rfl rfl _

theorem next_read (ds : List Char) : (emptied (read ds)).next = .ok (ended ds) := by
  let blockEnd : Piece := ⟨.blockEnd, ⟨2, 0⟩, ⟨2, 0⟩⟩
  let unwound : Lexer := { emptied (read ds) with tokens := [blockEnd], indent := 0, indents := [-1] }
  let closed : Lexer :=
    { unwound with tokens := [blockEnd, blockEnd], indent := -1, indents := [], allowKey := false }
  have hfound : (Lexer.skipToToken 1 (emptied (read ds))).dropStaleKeys = .ok (emptied (read ds)) := rfl
  have hunwind : (emptied (read ds)).unwind (0 : Nat) = unwound := rfl
  have hclosed : unwound.closeAll = .ok closed := rfl
  exact Lexer.next_of_end hfound hunwind rfl hclosed rfl

theorem fill_read (ds : List Char) : (emptied (read ds)).fill 2 = .ok (ended ds) :=
  Lexer.fill_of_end rfl rfl (next_read ds) rfl 0

/-! ### Nodes -/

open Yaml.Graph

/-- The nodes of the document, where the three scalars have some types. -/
def graph (ds : List Char) (outerType innerType numberType : Tag) : Graph where
  nodes := #[⟨.mapping, .mapping [(1, 2)], ⟨0, 0⟩⟩, plainNode outerType outerName ⟨0, 0⟩,
    ⟨.mapping, .mapping [(3, 4)], ⟨1, 2⟩⟩, plainNode innerType innerName ⟨1, 2⟩,
    plainNode numberType ('0' :: 'x' :: ds) ⟨1, 17⟩]

theorem blockEntries_inner (h : IsHexadecimal ds) (fuel : Nat) {r : Reader} (hr : r.lexer = inner ds) :
    (blockEntries ⟨1, 2⟩ (fuel + 2)).run r.advanced =
      .ok ([(r.graph.size, r.graph.size + 1)], Reader.advanced { r with
        lexer := ended ds
        graph := (r.graph.push (plainNode (.ofPlain innerName) innerName ⟨1, 2⟩)).push
          (plainNode (.ofPlain ('0' :: 'x' :: ds)) ('0' :: 'x' :: ds) ⟨1, 17⟩) }) := by
  obtain ⟨l, hs, as, g⟩ := r
  obtain rfl : l = inner ds := hr
  let r : Reader := Reader.advanced ⟨inner ds, hs, as, g⟩
  let r₂ : Reader := (r.advanced.pushed (plainNode (.ofPlain innerName) innerName ⟨1, 2⟩)).advanced
  let r₃ : Reader := { r₂.advanced with lexer := read ds }
  have hname : HasPart (fuel + 1) r.advanced g.size r₂ := hasPart_plain (.of_ready rfl rfl) fuel
  have hsees : Sees r₂.advanced ⟨.scalar ⟨'0' :: 'x' :: ds, true, none⟩, ⟨1, 17⟩, ⟨2, 0⟩⟩ r₃ :=
    .of_fill (fill_inner h.isWord) rfl rfl
  have hnumber := hasPart_plain hsees fuel
  have hend : Sees (r₃.pushed (plainNode (.ofPlain ('0' :: 'x' :: ds)) ('0' :: 'x' :: ds) ⟨1, 17⟩)).advanced
      ⟨.blockEnd, ⟨2, 0⟩, ⟨2, 0⟩⟩ _ := .of_fill (fill_read ds) rfl rfl
  have hsize : r₃.graph.size = g.size + 1 := Array.size_push _
  rw [blockEntries_single (.of_ready rfl rfl) hname (.of_ready rfl rfl) hnumber hend, hsize]
  rfl

theorem parseNode_outer (h : IsHexadecimal ds) (fuel : Nat) :
    (parseNode true false (fuel + 5)).run { lexer := outer ds, handles := usualHandles } =
      .ok (0, { lexer := { ended ds with tokens := [⟨.streamEnd, ⟨2, 0⟩, ⟨2, 0⟩⟩], taken := 11 }
                handles := usualHandles
                graph := graph ds (.ofPlain outerName) (.ofPlain innerName) (.ofPlain ('0' :: 'x' :: ds)) }) := by
  let mapping (start : Mark) : Node := ⟨.mapping, .mapping [], start⟩
  let r : Reader := (Reader.pushed { lexer := outer ds, handles := usualHandles } (mapping ⟨0, 0⟩)).advanced
  let r₂ : Reader := (r.advanced.pushed (plainNode (.ofPlain outerName) outerName ⟨0, 0⟩)).advanced
  let r₃ : Reader := { r₂.advanced with lexer := inner ds }
  have hname : HasPart (fuel + 3) r.advanced 1 r₂ := hasPart_plain (.of_ready rfl rfl) (fuel + 2)
  have hsees : Sees r₂.advanced ⟨.blockMappingStart, ⟨1, 2⟩, ⟨1, 2⟩⟩ r₃ := .of_fill (fill_outer ds) rfl rfl
  have hcontent := hasPart_mapping hsees (blockEntries_inner h fuel (r := r₃.pushed (mapping ⟨1, 2⟩)) rfl)
  have hentries : (blockEntries ⟨0, 0⟩ (fuel + 4)).run r = _ :=
    blockEntries_single (.of_ready rfl rfl) hname (.of_ready rfl rfl) hcontent (.of_ready rfl rfl)
  rw [parseNode_mapping (.of_ready rfl rfl) hentries false]
  rfl

theorem ofSource_numberDocument (h : IsHexadecimal ds) :
    Graph.ofSource? ⟨(numberDocument ds).toList, none⟩ = .ok (some 0, graph ds .text .text .int) := by
  have houter : Tag.ofPlain outerName = .text := by decide
  have hinner : Tag.ofPlain innerName = .text := by decide
  have hfirst : Sees { lexer := begun ds } ⟨.blockMappingStart, ⟨0, 0⟩, ⟨0, 0⟩⟩ { lexer := outer ds } :=
    .of_fill (fill_begun ds) rfl rfl
  have hroot := parseNode_outer h (16 * (numberDocument ds).toList.length + 59)
  rw [houter, hinner, h.ofPlain] at hroot
  have hsingle := single_of_parseNode hfirst rfl hroot (.of_ready rfl rfl)
  rw [ofSource?, start_numberDocument, hsingle]
  rfl

/-! ### Data -/

theorem dataOfGraph_graph (h : IsHexadecimal ds) :
    dataOfGraph (graph ds .text .text .int) 0 =
      .ok (.map [(.text "diff", .map [(.text "strip_slashes", .int (Numeral.valueIn 16 ds))])]) := by
  let g : Graph := graph ds .text .text .int
  let n : Data := .int (Numeral.valueIn 16 ds)
  let outerText : Data := textOf ⟨outerName, true, none⟩
  let innerText : Data := textOf ⟨innerName, true, none⟩
  let known : List (NodeId × Part) := [(2, .node 2), (1, .data outerText), (0, .node 0)]
  let done : List (NodeId × Collection) := [(0, .map [(outerText, .node 2)])]
  have hnumber : Build.scalar g 4 = .ok n := by
    have hread : Build.scalar g 4 = scalarValue .int ⟨'0' :: 'x' :: ds, true, none⟩ ⟨1, 17⟩ := rfl
    rw [hread, scalarValue, h.intOf]
    rfl
  have hroot : (Build.part 0).run { graph := g } =
      .ok (.node 0, { graph := g, known := [(0, .node 0)], waiting := [0] }) := rfl
  have houter : (Build.collection 0).run { graph := g, known := [(0, .node 0)] } =
      .ok (.map [(outerText, .node 2)], { graph := g, known := known, waiting := [2] }) :=
    Build.collection_single rfl rfl (Build.part_scalar rfl rfl rfl) rfl
  have hinner : (Build.collection 2).run { graph := g, known := known, collections := done } =
      .ok (.map [(innerText, .data n)],
        { graph := g, known := (4, .data n) :: (3, .data innerText) :: known, collections := done }) :=
    Build.collection_single rfl rfl (Build.part_scalar rfl rfl rfl) (Build.part_scalar rfl rfl hnumber)
  have hfirst := Build.finish_single (b := ⟨g, [(0, .node 0)], [0], []⟩) rfl houter 5
  have hfinish := hfirst.trans ((Build.finish_single rfl hinner 4).trans (Build.finish_nil rfl 3))
  have houterText : outerText = .text "diff" := congrArg Data.text (by decide)
  have hinnerText : innerText = .text "strip_slashes" := congrArg Data.text (by decide)
  have hsize : g.size = 5 := rfl
  rw [← houterText, ← hinnerText, dataOfGraph]
  dsimp only
  rw [hsize, run_bind_ok hroot, run_bind_ok hfinish]
  rfl

end Numbered

open Numbered

/-- **A number of any size is read from a document in base sixteen**, though it may have no decimal numeral. The
document is one that is read in one go. -/
theorem load_numberDocument {ds : List Char} (h : IsHexadecimal ds) (hlength : ds.length ≤ 4000) :
    load (Source.ofBytes (Text.encodeUtf8 (numberDocument ds))) =
      .ok (.map [(.text "diff", .map [(.text "strip_slashes", .int (Numeral.valueIn 16 ds))])]) := by
  rw [ofBytes_numberDocument h hlength, load_of_graph (ofSource_numberDocument h), dataOfGraph_graph h]

end Transplant.Yaml
