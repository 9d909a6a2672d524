import Transplant.Text.Digit
import Transplant.Text.Printable

/-!
# Quoted text

The form in which messages quote a text. The quote is `'`, unless the text holds a `'` and no
`"`. A backslash and the quote in use are escaped, line breaks and tabs have short escapes, and
every other unprintable character is written by its number in two, four or eight hexadecimal digits.
-/

namespace Transplant.Text

/-- The quote that encloses a text. -/
def quoteFor (cs : List Char) : Char :=
  if cs.contains '\'' && !cs.contains '"' then '"' else '\''

/-- One character inside quotes. -/
def quoteChar (quote c : Char) : List Char :=
  if c == '\\' || c == quote then ['\\', c]
  else if c == '\n' then ['\\', 'n']
  else if c == '\r' then ['\\', 'r']
  else if c == '\t' then ['\\', 't']
  else if isPrintable c then [c]
  else if c.toNat < 0x100 then '\\' :: 'x' :: hex false 2 c.toNat
  else if c.toNat < 0x10000 then '\\' :: 'u' :: hex false 4 c.toNat
  else '\\' :: 'U' :: hex false 8 c.toNat

/-- A text between quotes. -/
def quoted (s : String) : String :=
  let cs := s.toList
  let q := quoteFor cs
  String.ofList (q :: cs.flatMap (quoteChar q) ++ [q])

/-- Whether a number is half of a surrogate pair and so no character. -/
def isSurrogate (n : Nat) : Bool := 0xd800 ≤ n && n < 0xe000

/-- Code points between quotes; half of a surrogate pair is not printable. -/
def quotedPoints (points : List Nat) : String :=
  let q := quoteFor (points.map Char.ofNat)
  let point (n : Nat) : List Char :=
    if isSurrogate n then '\\' :: 'u' :: hex false 4 n else quoteChar q (Char.ofNat n)
  String.ofList (q :: points.flatMap point ++ [q])

/-- A byte string between quotes, after the letter `b`. -/
def quotedBytes (bs : List UInt8) : String :=
  let cs := bs.map fun b => Char.ofNat b.toNat
  let q := quoteFor cs
  let body := cs.flatMap fun c => if c.toNat < 0x7f then quoteChar q c else '\\' :: 'x' :: hex false 2 c.toNat
  String.ofList ('b' :: q :: body ++ [q])

/-- The quoted texts of a list, between brackets. -/
def quotedList (items : List String) : String :=
  "[" ++ ", ".intercalate (items.map quoted) ++ "]"

end Transplant.Text
