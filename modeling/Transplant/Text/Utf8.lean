import Transplant.Text.Digit

/-!
# UTF-8

Decoding bytes that may be ill-formed. One step reads a character or reports the longest start of
one that the bytes hold; a lenient reader puts U+FFFD for each such piece, a strict one stops.
-/

namespace Transplant.Text

/-- Why bytes at a place are no character. -/
inductive Utf8Fault where
  | start
  | continuation
  | truncated
deriving DecidableEq, Repr

/-- The words for a fault. -/
def Utf8Fault.message : Utf8Fault → String
  | .start => "invalid start byte"
  | .continuation => "invalid continuation byte"
  | .truncated => "unexpected end of data"

/-- What a lead byte announces: the number of continuation bytes, the bits it carries, and the
range of the first continuation byte. -/
structure Utf8Lead where
  more : Nat
  bits : Nat
  low : Nat
  high : Nat

/-- The announcement of a lead byte above U+007F. -/
def Utf8Lead.of? (b : Nat) : Option Utf8Lead :=
  if 0xc2 ≤ b && b ≤ 0xdf then some ⟨1, b - 0xc0, 0x80, 0xbf⟩
  else if b == 0xe0 then some ⟨2, 0, 0xa0, 0xbf⟩
  else if b == 0xed then some ⟨2, 0xd, 0x80, 0x9f⟩
  else if 0xe1 ≤ b && b ≤ 0xef then some ⟨2, b - 0xe0, 0x80, 0xbf⟩
  else if b == 0xf0 then some ⟨3, 0, 0x90, 0xbf⟩
  else if 0xf1 ≤ b && b ≤ 0xf3 then some ⟨3, b - 0xf0, 0x80, 0xbf⟩
  else if b == 0xf4 then some ⟨3, 4, 0x80, 0x8f⟩
  else none

/-- Reads `more` continuation bytes, the first between `low` and `high`, onto the bits so far;
the first component counts the bytes read. -/
def readContinuation : (more bits low high : Nat) → List UInt8 → Nat × Except Utf8Fault Nat
  | 0, bits, _, _, _ => (0, .ok bits)
  | _ + 1, _, _, _, [] => (0, .error .truncated)
  | more + 1, bits, low, high, b :: rest =>
    if low ≤ b.toNat && b.toNat ≤ high then
      let (n, r) := readContinuation more (bits * 64 + (b.toNat - 0x80)) 0x80 0xbf rest
      (n + 1, r)
    else (0, .error .continuation)

/-- The first character of some bytes or the fault there, with the number of bytes after the
first that belong to it. -/
def readUtf8 (b : UInt8) (rest : List UInt8) : Nat × Except Utf8Fault Char :=
  if b.toNat < 0x80 then (0, .ok (Char.ofNat b.toNat))
  else match Utf8Lead.of? b.toNat with
    | none => (0, .error .start)
    | some lead =>
      let (n, r) := readContinuation lead.more lead.bits lead.low lead.high rest
      (n, r.map Char.ofNat)

/-- The characters of some bytes, each with U+FFFD for the longest ill-formed piece. -/
def decodeLenient : List UInt8 → List Char
  | [] => []
  | b :: rest =>
    match readUtf8 b rest with
    | (n, .ok c) => c :: decodeLenient (rest.drop n)
    | (n, .error _) => '\ufffd' :: decodeLenient (rest.drop n)
termination_by bs => bs.length
decreasing_by all_goals (simp only [List.length_drop, List.length_cons]; omega)

/-- An ill-formed piece of a byte string: its first byte, where it is, its length and the fault. -/
structure Utf8Error where
  byte : UInt8
  position : Nat
  length : Nat
  fault : Utf8Fault
deriving DecidableEq, Repr

/-- The words for an ill-formed piece. -/
def Utf8Error.message (e : Utf8Error) : String :=
  "'utf-8' codec can't decode " ++
    (if e.length == 1 then
      "byte 0x" ++ String.ofList (hex false 2 e.byte.toNat) ++ " in position " ++ decimal e.position
    else "bytes in position " ++ decimal e.position ++ "-" ++ decimal (e.position + e.length - 1)) ++
    ": " ++ e.fault.message

/-- The characters of some bytes that start at a position, or the first ill-formed piece. Unless the bytes
are the last ones, those of a character that they cut off are left over. -/
def decodeFrom (last : Bool) (position : Nat) : List UInt8 → Except Utf8Error (List Char × List UInt8)
  | [] => .ok ([], [])
  | b :: rest =>
    match readUtf8 b rest with
    | (n, .ok c) =>
      (decodeFrom last (position + n + 1) (rest.drop n)).map fun (cs, left) => (c :: cs, left)
    | (n, .error fault) =>
      if fault == .truncated && !last then .ok ([], b :: rest)
      else .error ⟨b, position, n + 1, fault⟩
termination_by bs => bs.length
decreasing_by simp only [List.length_drop, List.length_cons]; omega

/-- The characters of some bytes, or the first ill-formed piece. -/
def decodeStrict (bs : List UInt8) : Except Utf8Error (List Char) :=
  (decodeFrom true 0 bs).map (·.1)

/-- The bytes of a text. -/
def encodeUtf8 (s : String) : List UInt8 :=
  s.toUTF8.toList

/-- The number of bytes of some characters. -/
def encodedLength (cs : List Char) : Nat :=
  cs.foldr (fun c n => c.utf8Size + n) 0

end Transplant.Text
