import Transplant.Yaml.Tag

/-!
# Spelling of texts

How a text is written as a scalar: plain where it reads back as the same text, else between single
quotes, and between double quotes if it holds anything but printable ASCII and line feeds. A long
text goes on in the next line, at a single space, once a line has passed its width.
-/

namespace Transplant.Yaml

/-- The three ways to write a text. -/
inductive Style where
  | plain
  | single
  | double
deriving DecidableEq, Repr

namespace Style

/-- Whether a character can be written only as an escape. -/
def isSpecial (c : Char) : Bool :=
  !(c == '\n' || (' ' ≤ c && c ≤ '~'))

/-- Whether a space and a line feed stand side by side, in either order. -/
def hasRaggedLine : List Char → Bool
  | a :: b :: rest =>
    (a == ' ' && b == '\n') || (a == '\n' && b == ' ') || hasRaggedLine (b :: rest)
  | _ => false

/-- Whether a `:` before a space or the end, or a `#` behind a space, would end a plain scalar. -/
def hasInnerIndicator : List Char → Bool
  | [] => false
  | [a] => a == ':'
  | a :: b :: rest =>
    (a == ':' && b == ' ') || (a == ' ' && b == '#') || hasInnerIndicator (b :: rest)

/-- Whether the start of a text has a meaning of its own. -/
def startsWithIndicator (cs : List Char) : Bool :=
  match cs with
  | [] => false
  | c :: rest =>
    "#,[]\x7b\x7d&*!|>'\"%@`".toList.contains c
      || ("?:-".toList.contains c && (rest.isEmpty || rest.head? == some ' '))
      || "---".toList.isPrefixOf cs || "...".toList.isPrefixOf cs

/-- Whether a text of one line reads back as itself without quotes. -/
def isPlain (cs : List Char) : Bool :=
  Tag.ofPlain cs == .text && !cs.contains '\n' && cs.head? != some ' ' && cs.getLast? != some ' '
    && !startsWithIndicator cs && !hasInnerIndicator cs

/-- The simplest way to write a text. -/
def ofText (cs : List Char) : Style :=
  if cs.any isSpecial || hasRaggedLine cs then .double
  else if isPlain cs then .plain
  else .single

end Style

namespace Spelling

/-- The column behind which a line is not continued. -/
def width : Nat := 80

/-- The start of a new line at an indentation. -/
def newLine (indent : Nat) : List Char :=
  '\n' :: List.replicate indent ' '

/-! ## Folding -/

/-- The runs of spaces, of line feeds and of other characters in a text. -/
def runs (cs : List Char) : List (List Char) :=
  cs.splitBy fun a b => (a == ' ') == (b == ' ') && (a == '\n') == (b == '\n')

/-- Writes runs from a column on. A space inside the text may become the end of a line that is full, and
line feeds are written with one more, as the first would read back as a space. -/
def fold (indent : Nat) : (column : Nat) → (first : Bool) → List (List Char) → List Char
  | _, _, [] => []
  | column, first, run :: rest =>
    if run == [' '] && column > width && !first && !rest.isEmpty then
      newLine indent ++ fold indent indent false rest
    else if run.head? == some '\n' then
      run ++ newLine indent ++ fold indent indent false rest
    else run ++ fold indent (column + run.length) false rest

/-- A text with every single quote written twice. -/
def doubleQuotes (cs : List Char) : List Char :=
  cs.flatMap fun c => if c == '\'' then ['\'', '\''] else [c]

/-! ## Escapes -/

/-- The letter of a short escape. -/
def shortEscape? (c : Char) : Option Char :=
  match c with
  | '\x00' => some '0'
  | '\x07' => some 'a'
  | '\x08' => some 'b'
  | '\t' => some 't'
  | '\n' => some 'n'
  | '\x0b' => some 'v'
  | '\x0c' => some 'f'
  | '\r' => some 'r'
  | '\x1b' => some 'e'
  | '"' => some '"'
  | '\\' => some '\\'
  | '\x85' => some 'N'
  | '\xa0' => some '_'
  | '\u2028' => some 'L'
  | '\u2029' => some 'P'
  | _ => none

/-- The escape of a character, if it needs one between double quotes. -/
def escape? (c : Char) : Option (List Char) :=
  match shortEscape? c with
  | some letter => some ['\\', letter]
  | none =>
    let n := c.toNat
    if ' ' ≤ c && c ≤ '~' then none
    else if n < 0x100 then some ('\\' :: 'x' :: Text.hex true 2 n)
    else if n < 0x10000 then some ('\\' :: 'u' :: Text.hex true 4 n)
    else some ('\\' :: 'U' :: Text.hex true 8 n)

/-- Writes characters between double quotes from a column on. A line that is full ends with a
backslash, before a space or next to an escape, and a space at the start of the next line has one too. -/
def escaped (indent : Nat) :
    (column : Nat) → (first afterEscape : Bool) → List Char → List Char
  | _, _, _, [] => []
  | column, first, afterEscape, c :: rest =>
    let isInside := !first && !rest.isEmpty
    match escape? c with
    | some e =>
      let column := column + e.length
      if isInside && column > width + 1 then
        let guard := if rest.head? == some ' ' then ['\\'] else []
        e ++ '\\' :: newLine indent ++ guard
          ++ escaped indent (indent + guard.length) false true rest
      else e ++ escaped indent column false true rest
    | none =>
      if isInside && (c == ' ' || afterEscape) && column > width then
        let guard := if c == ' ' then ['\\'] else []
        '\\' :: newLine indent ++ guard ++ c
          :: escaped indent (indent + guard.length + 1) false false rest
      else c :: escaped indent (column + 1) false false rest

end Spelling

/-- Writes a text at a column, with the indentation of the lines after its first. -/
def spell (indent column : Nat) (cs : List Char) : List Char :=
  match Style.ofText cs with
  | .plain => Spelling.fold indent column true (Spelling.runs cs)
  | .single =>
    '\'' :: Spelling.fold indent (column + 1) true (Spelling.runs (Spelling.doubleQuotes cs)) ++ ['\'']
  | .double => '"' :: Spelling.escaped indent (column + 1) true false cs ++ ['"']

end Transplant.Yaml
