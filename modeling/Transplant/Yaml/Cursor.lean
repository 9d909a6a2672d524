import Transplant.Yaml.Fault

/-!
# Reading positions

The place of a reader in a YAML document: the characters still to be read and the position in lines and
columns. Past the end stands the character NUL, which no document holds, or what cannot be read.
-/

namespace Transplant.Yaml

/-- A place in a document; `broken` is what keeps reading from going on past the end. -/
structure Cursor where
  rest : List Char
  index : Nat := 0
  line : Nat := 0
  column : Nat := 0
  broken : Option Fault := none

/-- Whether a document may hold a character. -/
def isAllowed (c : Char) : Bool :=
  let n := c.toNat
  n == 9 || n == 10 || n == 13 || (0x20 ≤ n && n ≤ 0x7e) || n == 0x85 || (0xa0 ≤ n && n ≤ 0xd7ff) ||
    (0xe000 ≤ n && n ≤ 0xfffd) || 0x10000 ≤ n

/-- Whether a character stands for the end of the document. -/
def isEnd (c : Char) : Bool := c == '\x00'

/-- Whether a character ends a line. -/
def isBreak (c : Char) : Bool :=
  c == '\n' || c == '\r' || c == '\x85' || c == '\u2028' || c == '\u2029'

/-- Whether a line has no more characters. -/
def isBreakOrEnd (c : Char) : Bool := isEnd c || isBreak c

/-- Whether a character separates tokens, tabs apart. -/
def isSpaceOrBreak (c : Char) : Bool := c == ' ' || isBreakOrEnd c

/-- Whether a character separates tokens. -/
def isSeparator (c : Char) : Bool := c == '\t' || isSpaceOrBreak c

/-- Whether a character may occur in the name of an anchor. -/
def isWord (c : Char) : Bool :=
  ('0' ≤ c && c ≤ '9') || ('A' ≤ c && c ≤ 'Z') || ('a' ≤ c && c ≤ 'z') || c == '-' || c == '_'

namespace Cursor

/-- The character at a distance. -/
def peek (c : Cursor) (n : Nat := 0) : Char :=
  (c.rest[n]?).getD '\x00'

/-- The line and column of a place. -/
def mark (c : Cursor) : Mark := ⟨c.line, c.column⟩

/-- What keeps reading from going on here. -/
def broken? (c : Cursor) : Option Fault :=
  if c.rest.isEmpty then c.broken else none

/-- The fault of what stands here. -/
def refuse {α : Type} (c : Cursor) (problem : Problem) : Except Fault α :=
  .error (c.broken?.getD (.found problem c.mark none))

/-- The fault of what stands here inside something that starts at a mark. -/
def refuseIn {α : Type} (c : Cursor) (activity : Activity) (subject : String) (start : Mark)
    (problem : Problem) : Except Fault α :=
  .error (c.broken?.getD (.found problem c.mark (some (.during activity subject, some start))))

/-- The place behind the next character. -/
def step (c : Cursor) : Cursor :=
  match c.rest with
  | [] => c
  | x :: rest =>
    let next := { c with rest := rest, index := c.index + 1 }
    if isBreak x && !(x == '\r' && rest.head? == some '\n') then
      { next with line := c.line + 1, column := 0 }
    else if x == '\ufeff' then next
    else { next with column := c.column + 1 }

/-- The place behind the next `n` characters. -/
def skip (c : Cursor) : (n : Nat) → Cursor
  | 0 => c
  | n + 1 => c.step.skip n

/-- The characters from here on that satisfy `p`, and the place behind them. -/
def span (c : Cursor) (p : Char → Bool) : List Char × Cursor :=
  let run := c.rest.takeWhile p
  (run, c.skip run.length)

/-- The place behind the characters from here on that satisfy `p`. -/
def skipWhile (c : Cursor) (p : Char → Bool) : Cursor :=
  (c.span p).2

/-- The place behind the spaces from here on. -/
def skipSpaces (c : Cursor) : Cursor :=
  c.skipWhile (· == ' ')

/-- The place behind a comment that starts here, before the end of the line. -/
def skipComment (c : Cursor) : Cursor :=
  if c.peek == '#' then c.skipWhile fun x => !isBreakOrEnd x else c

/-- Reads the end of a line. All but two kinds of line end count as a line feed. -/
def readBreak (c : Cursor) : List Char × Cursor :=
  let x := c.peek
  if x == '\r' && c.peek 1 == '\n' then (['\n'], c.skip 2)
  else if x == '\r' || x == '\n' || x == '\x85' then (['\n'], c.step)
  else if x == '\u2028' || x == '\u2029' then ([x], c.step)
  else ([], c)

/-- Whether a document indicator made of three equal characters stands here. -/
def atIndicator (c : Cursor) (x : Char) : Bool :=
  c.peek == x && c.peek 1 == x && c.peek 2 == x && isSeparator (c.peek 3)

/-- Whether either document indicator stands here. -/
def atDocumentEdge (c : Cursor) : Bool :=
  c.atIndicator '-' || c.atIndicator '.'

end Cursor

end Transplant.Yaml
