import Transplant.Text.Utf8

/-!
# Texts read in pieces

A file that is read as a text. Its bytes are decoded a piece at a time; what a piece cuts off, a
character or the two signs of a line end, waits for the next one. Each kind of line end becomes a line feed.
-/

namespace Transplant.Text

/-- A text with each kind of line end as a line feed. -/
def normalizeLineEnds : List Char → List Char
  | '\r' :: '\n' :: cs => '\n' :: normalizeLineEnds cs
  | '\r' :: cs => '\n' :: normalizeLineEnds cs
  | c :: cs => c :: normalizeLineEnds cs
  | [] => []

/-- A file that is being read: the bytes left, those of a character that the last piece cut off, whether
it ended in a carriage return, the characters not taken yet, and how many bytes gave how many
characters in the last piece. -/
structure Stream where
  bytes : List UInt8
  cut : List UInt8 := []
  returned : Bool := false
  ready : List Char := []
  ratio : Nat × Nat := (0, 0)

namespace Stream

/-- The least number of bytes in a piece, the end of the file apart. -/
def pieceSize : Nat := 8192

/-- The number of bytes in the next piece, when some characters are wanted: as many as they would
take by the ratio of the last piece. -/
def nextSize (s : Stream) (wanted : Nat) : Nat :=
  let (bytes, chars) := s.ratio
  max pieceSize (wanted * max bytes chars / max chars 1)

/-- Decodes the next piece; the first component tells whether nothing was left. The position of
ill-formed bytes counts from the start of the piece, with what was cut off before it. -/
def readPiece (s : Stream) (wanted : Nat) : Except Utf8Error (Bool × Stream) := do
  let size := s.nextSize wanted
  let now := s.bytes.take size
  let isLast := now.isEmpty
  let (cs, cut) ← decodeFrom isLast 0 (s.cut ++ now)
  let moved := s.returned && (isLast || !cs.isEmpty)
  let cs := if moved then '\r' :: cs else cs
  let held := !isLast && cs.getLast? == some '\r'
  let cs := normalizeLineEnds (if held then cs.dropLast else cs)
  let returned := held || (s.returned && !moved)
  return (isLast && cs.isEmpty, ⟨s.bytes.drop size, cut, returned, cs, (now.length, cs.length)⟩)

/-- Takes as many characters as wanted; fewer only where the file ends. A piece takes a byte, or the
carriage return that waits, so two more than there are bytes is enough fuel. -/
def readUpTo : (fuel : Nat) → (wanted : Nat) → Stream → Except Utf8Error (List Char × Stream)
  | 0, _, s => .ok ([], s)
  | fuel + 1, wanted, s => do
    let now := s.ready.take wanted
    let s := { s with ready := s.ready.drop wanted }
    if now.length == wanted then return (now, s)
    else
      let (ended, s) ← s.readPiece (wanted - now.length)
      if ended then return (now, s)
      else
        let (more, s) ← readUpTo fuel (wanted - now.length) s
        return (now ++ more, s)

/-- Takes up to a number of characters. -/
def read (s : Stream) (wanted : Nat) : Except Utf8Error (List Char × Stream) :=
  readUpTo (s.bytes.length + 2) wanted s

end Stream

end Transplant.Text
