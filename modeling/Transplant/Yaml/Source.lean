import Transplant.Text.Stream
import Transplant.Yaml.Cursor

/-!
# Documents in a file

A document is taken from its file in blocks, and a block is decoded and checked when reading gets to
it. So a document is what can be read of it and what is wrong right behind that; a fault before that
place is met first.
-/

namespace Transplant.Yaml

/-- The characters of a document that can be read, and why nothing behind them can. -/
structure Source where
  chars : List Char
  broken : Option Fault := none

namespace Source

/-- The number of characters in a block. The first time, two blocks are taken. -/
def blockSize : Nat := 4096

/-- The document whose next block, behind a number of characters, is given; `more` is the rest. -/
def ofBlock (count : Nat) (block : Except Text.Utf8Error (List Char × Text.Stream))
    (more : Nat → Text.Stream → Source) : Source :=
  match block with
  | .error why => ⟨[], some (.undecodable why)⟩
  | .ok (cs, s) =>
    let before := cs.takeWhile isAllowed
    match cs.drop before.length with
    | c :: _ => ⟨[], some (.unacceptable c (count + before.length))⟩
    | [] =>
      if cs.isEmpty then ⟨[], none⟩
      else
        let rest := more (count + cs.length) s
        ⟨cs ++ rest.chars, rest.broken⟩

/-- The rest of a document behind a number of characters. A block takes a character at least, so one more
than there are bytes is enough fuel. -/
def rest : (fuel : Nat) → (count : Nat) → Text.Stream → Source
  | 0, _, _ => ⟨[], none⟩
  | fuel + 1, count, s => ofBlock count (s.read blockSize) (rest fuel)

/-- The document in some bytes. -/
def ofBytes (bytes : List UInt8) : Source :=
  let first : Except Text.Utf8Error (List Char × Text.Stream) := do
    let (a, s) ← Text.Stream.read ⟨bytes, [], false, [], (0, 0)⟩ blockSize
    let (b, s) ← s.read blockSize
    return (a ++ b, s)
  ofBlock 0 first (rest (bytes.length + 1))

end Source

end Transplant.Yaml
