import Mathlib.Data.List.TakeWhile
import Transplant.Proofs.Text.Utf8
import Transplant.Yaml.Source

/-!
# Short files

A file that is shorter than a piece is decoded in one go, and a reader that gets a block of it has it all. So a
document in such a file is the text that was written, if it may hold its characters (`ofBytes_encodeUtf8`).
-/

namespace Transplant.Text

theorem normalizeLineEnds_eq_self {cs : List Char} (h : '\r' ∉ cs) : normalizeLineEnds cs = cs := by
  fun_induction normalizeLineEnds cs with
  | case1 cs => simp at h
  | case2 cs => simp at h
  | case3 c cs _ _ ih => rw [ih fun hc => h (List.mem_cons_of_mem c hc)]
  | case4 => rfl

namespace Stream

variable {text : String} {wanted : Nat}

/-- A file that has been read to its end. -/
def drained : Stream := ⟨[], [], false, [], (0, 0)⟩

theorem readPiece_of_ended (ready : List Char) (ratio : Nat × Nat) (wanted : Nat) :
    readPiece ⟨[], [], false, ready, ratio⟩ wanted = .ok (true, drained) := by
  simp [readPiece, drained, decodeFrom, normalizeLineEnds, bind, Except.bind, pure, Except.pure]

theorem read_drained (hwanted : 0 < wanted) : drained.read wanted = .ok ([], drained) := by
  have hmore : (0 == wanted) = false := beq_false_of_ne (Nat.ne_of_lt hwanted)
  have hpiece := readPiece_of_ended [] (0, 0) wanted
  rw [read, drained, readUpTo]
  simp only [List.take_nil, List.drop_nil, List.length_nil, hmore, Nat.sub_zero, hpiece]
  rfl

section

variable (hsize : (encodeUtf8 text).length ≤ pieceSize) (hne : encodeUtf8 text ≠ []) (hreturn : '\r' ∉ text.toList)

include hsize hne hreturn

/-- The whole of a short file is one piece. -/
theorem readPiece_of_short (wanted : Nat) :
    readPiece ⟨encodeUtf8 text, [], false, [], (0, 0)⟩ wanted =
      .ok (false, ⟨[], [], false, text.toList, ((encodeUtf8 text).length, text.toList.length)⟩) := by
  have hall : (encodeUtf8 text).length ≤ nextSize ⟨encodeUtf8 text, [], false, [], (0, 0)⟩ wanted :=
    hsize.trans (Nat.le_max_left _ _)
  have hlast : (text.toList.getLast? == some '\r') = false :=
    beq_false_of_ne fun h => hreturn (List.mem_of_getLast? h)
  have hmore : (encodeUtf8 text).isEmpty = false := by simpa using hne
  rw [readPiece]
  simp only [List.take_of_length_le hall, List.drop_of_length_le hall, List.nil_append, decodeFrom_encodeUtf8, bind,
    Except.bind, pure, Except.pure, Bool.false_and, Bool.and_false, Bool.or_false, Bool.false_eq_true, if_false, hlast,
    hmore, normalizeLineEnds_eq_self hreturn]

theorem read_of_short (hwanted : text.toList.length < wanted) :
    read ⟨encodeUtf8 text, [], false, [], (0, 0)⟩ wanted = .ok (text.toList, drained) := by
  have hnone : (0 == wanted) = false := beq_false_of_ne (by omega)
  have hfew : (text.toList.length == wanted) = false := beq_false_of_ne (by omega)
  have hpiece := readPiece_of_short hsize hne hreturn wanted
  have hrest : readUpTo ((encodeUtf8 text).length + 1) wanted
      ⟨[], [], false, text.toList, ((encodeUtf8 text).length, text.toList.length)⟩ = .ok (text.toList, drained) := by
    rw [readUpTo]
    simp only [List.take_of_length_le hwanted.le, List.drop_of_length_le hwanted.le, hfew, readPiece_of_ended]
    rfl
  rw [read, readUpTo]
  simp only [List.take_nil, List.drop_nil, List.length_nil, hnone, Nat.sub_zero, hpiece, bind, Except.bind,
    Bool.false_eq_true, if_false, hrest]
  rfl

end

end Stream

end Transplant.Text

namespace Transplant.Yaml.Source

open Text

/-- **A document in a short file is the text that was written.** -/
theorem ofBytes_encodeUtf8 {text : String} (hlength : text.toList.length < blockSize)
    (hsize : (encodeUtf8 text).length ≤ Stream.pieceSize) (hne : encodeUtf8 text ≠ [])
    (hreturn : '\r' ∉ text.toList) (hallowed : ∀ c ∈ text.toList, isAllowed c = true) :
    ofBytes (encodeUtf8 text) = ⟨text.toList, none⟩ := by
  have hfirst := Stream.read_of_short hsize hne hreturn hlength
  have hblock : 0 < blockSize := by decide
  have hsecond := Stream.read_drained hblock
  have hbefore : text.toList.takeWhile isAllowed = text.toList := List.takeWhile_eq_self_iff.2 hallowed
  rw [ofBytes]
  simp only [hfirst, hsecond, bind, Except.bind, pure, Except.pure, List.append_nil]
  rw [ofBlock]
  simp only [hbefore, List.drop_length]
  rw [rest, hsecond]
  simp [ofBlock]

end Transplant.Yaml.Source
