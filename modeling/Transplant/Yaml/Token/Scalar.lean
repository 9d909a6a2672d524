import Transplant.Yaml.Token.Basic

/-!
# Scalars

The three ways to write a text: between quotes, as a block of indented lines, and plain. Line ends
inside a quoted or plain scalar are folded: a single one becomes a space and of several the
first is dropped.
-/

namespace Transplant.Yaml

/-- The text of a folded line end and the empty lines after it. -/
def foldBreaks (lineBreak breaks : List Char) : List Char :=
  if lineBreak != ['\n'] then lineBreak ++ breaks
  else if breaks.isEmpty then [' ']
  else breaks

/-! ## Quoted scalars -/

/-- The line ends of empty lines inside quotes; a document indicator is an error. -/
def readQuotedBreaks (start : Mark) : (fuel : Nat) → Cursor → Except Fault (List Char × Cursor)
  | 0, c => .ok ([], c)
  | fuel + 1, c => do
    if c.atDocumentEdge then c.refuseIn .scanning "a quoted scalar" start .edgeInQuotes
    let c := c.skipWhile fun x => x == ' ' || x == '\t'
    if isBreak c.peek then
      let (b, c) := c.readBreak
      let (bs, c) ← readQuotedBreaks start fuel c
      return (b ++ bs, c)
    else return ([], c)

/-- Blanks inside quotes: spaces and tabs as they are, or folded line ends. -/
def readQuotedBlanks (start : Mark) (c : Cursor) : Except Fault (List Char × Cursor) := do
  let (blanks, c) := c.span fun x => x == ' ' || x == '\t'
  if isEnd c.peek then c.refuseIn .scanning "a quoted scalar" start .endInQuotes
  else if isBreak c.peek then
    let (b, c) := c.readBreak
    let (bs, c) ← readQuotedBreaks start (c.rest.length + 1) c
    return (foldBreaks b bs, c)
  else return (blanks, c)

/-- The character that a short escape stands for. -/
def shortEscape? (x : Char) : Option Char :=
  match x with
  | '0' => some '\x00'
  | 'a' => some '\x07'
  | 'b' => some '\x08'
  | 't' | '\t' => some '\t'
  | 'n' => some '\n'
  | 'v' => some '\x0b'
  | 'f' => some '\x0c'
  | 'r' => some '\r'
  | 'e' => some '\x1b'
  | ' ' => some ' '
  | '"' => some '"'
  | '\\' => some '\\'
  | '/' => some '/'
  | 'N' => some '\x85'
  | '_' => some '\xa0'
  | 'L' => some '\u2028'
  | 'P' => some '\u2029'
  | _ => none

/-- The number of hexadecimal digits of a numeric escape. -/
def escapeWidth? (x : Char) : Option Nat :=
  match x with
  | 'x' => some 2
  | 'u' => some 4
  | 'U' => some 8
  | _ => none

/-- The number written by hexadecimal digits, or the first character that is none. -/
def hexNumber (cs : List Char) : Except Char Nat :=
  cs.foldlM (fun n x => match Text.hexValue? x with
    | some d => .ok (16 * n + d)
    | none => .error x) 0

/-- The code points that an escape stands for. The cursor is behind the backslash. -/
def readEscape (start : Mark) (c : Cursor) : Except Fault (List Nat × Cursor) :=
  let refuse (c : Cursor) (problem : Problem) : Except Fault (List Nat × Cursor) :=
    c.refuseIn .scanning "a double-quoted scalar" start problem
  match shortEscape? c.peek with
  | some x => .ok ([x.toNat], c.step)
  | none =>
    match escapeWidth? c.peek with
    | some width =>
      let c := c.step
      match hexNumber ((c.rest ++ List.replicate width '\x00').take width) with
      | .error x => refuse c (.expected
          ("escape sequence of " ++ Text.decimal width ++ " hexadecimal numbers") (.char x))
      | .ok n =>
        if n > 0x7fffffff then .error (.scalar (.overflow "Python int too large to convert to C int"))
        else if n > 0x10ffff then .error (.scalar (.outOfRange "chr() arg not in range(0x110000)"))
        else .ok ([n], c.skip width)
    | none =>
      if isBreak c.peek then do
        let (_, c) := c.readBreak
        let (bs, c) ← readQuotedBreaks start (c.rest.length + 1) c
        return (bs.map Char.toNat, c)
      else refuse c (.unknownEscape c.peek)

/-- Whether a character stands for itself between either kind of quotes. -/
def isQuotable (x : Char) : Bool :=
  !(x == '\'' || x == '"' || x == '\\' || isSeparator x)

/-- The code points between blanks inside quotes. -/
def readQuotedRun (double : Bool) (start : Mark) :
    (fuel : Nat) → Cursor → Except Fault (List Nat × Cursor)
  | 0, c => .ok ([], c)
  | fuel + 1, c => do
    let (run, c) := c.span isQuotable
    let x := c.peek
    let more (points : List Nat) (c : Cursor) : Except Fault (List Nat × Cursor) := do
      let (rest, c) ← readQuotedRun double start fuel c
      return (run.map Char.toNat ++ points ++ rest, c)
    if !double && x == '\'' && c.peek 1 == '\'' then more ['\''.toNat] (c.skip 2)
    else if (double && x == '\'') || (!double && (x == '"' || x == '\\')) then more [x.toNat] c.step
    else if double && x == '\\' then
      let (points, c) ← readEscape start c.step
      more points c
    else return (run.map Char.toNat, c)

/-- The code points up to the closing quote. -/
def readQuotedRest (double : Bool) (start : Mark) :
    (fuel : Nat) → Cursor → Except Fault (List Nat × Cursor)
  | 0, c => c.refuseIn .scanning "a quoted scalar" start .endInQuotes
  | fuel + 1, c => do
    let (run, c) ← readQuotedRun double start (c.rest.length + 1) c
    if c.peek == (if double then '"' else '\'') then return (run, c.step)
    else
      let (blanks, c) ← readQuotedBlanks start c
      let (rest, c) ← readQuotedRest double start fuel c
      return (run ++ blanks.map Char.toNat ++ rest, c)

/-- A scalar between quotes. -/
def readQuoted (double : Bool) (c : Cursor) : Except Fault (Scalar × Cursor) := do
  let (points, c) ← readQuotedRest double c.mark (c.rest.length + 2) c.step
  let whole (n : Nat) : Char := if Text.isSurrogate n then '\ufffd' else Char.ofNat n
  return (⟨points.map whole, false, if points.any Text.isSurrogate then some points else none⟩, c)

/-! ## Block scalars -/

/-- What becomes of the line ends after a block scalar. -/
inductive Chomping where
  | strip
  | clip
  | keep
deriving DecidableEq, Repr

/-- The chomping that a sign asks for. -/
def chomping? (x : Char) : Option Chomping :=
  if x == '+' then some .keep else if x == '-' then some .strip else none

/-- The value of an indentation indicator. -/
def indentDigit? (x : Char) : Option Nat :=
  if '0' ≤ x && x ≤ '9' then some (x.toNat - 48) else none

/-- The indicators behind `|` or `>`, in either order; an indentation is at least one. -/
def readBlockIndicators (c : Cursor) : Except Cursor ((Chomping × Option Nat) × Cursor) :=
  let digit (c : Cursor) (chomping : Chomping) : Except Cursor ((Chomping × Option Nat) × Cursor) :=
    match indentDigit? c.peek with
    | some 0 => .error c
    | some d => .ok ((chomping, some d), c.step)
    | none => .ok ((chomping, none), c)
  match chomping? c.peek with
  | some chomping => digit c.step chomping
  | none => do
    let ((_, increment), c) ← digit c .clip
    match increment, chomping? c.peek with
    | some d, some chomping => return ((chomping, some d), c.step)
    | increment, _ => return ((.clip, increment), c)

/-- The line of `|` or `>` behind that character. -/
def readBlockHeader (start : Mark) (c : Cursor) : Except Fault ((Chomping × Option Nat) × Cursor) :=
  let refuse (c : Cursor) (what : String) (found : Found) : Except Fault ((Chomping × Option Nat) × Cursor) :=
    c.refuseIn .scanning "a block scalar" start (.expected what found)
  match readBlockIndicators c with
  | .error c => refuse c "indentation indicator in the range 1-9" .zero
  | .ok (indicators, c) =>
    if !isSpaceOrBreak c.peek then refuse c "chomping or indentation indicators" (.char c.peek)
    else
      let c := c.skipSpaces.skipComment
      if isBreakOrEnd c.peek then .ok (indicators, c.readBreak.2)
      else refuse c "a comment or a line break" (.char c.peek)

/-- The empty lines before the first line of a block scalar, and its indentation. -/
def readBlockIndent : (fuel : Nat) → (widest : Nat) → Cursor → List Char × Nat × Cursor
  | 0, widest, c => ([], widest, c)
  | fuel + 1, widest, c =>
    if c.peek == ' ' then readBlockIndent fuel (max widest c.step.column) c.step
    else if isBreak c.peek then
      let (b, c) := c.readBreak
      let (bs, widest, c) := readBlockIndent fuel widest c
      (b ++ bs, widest, c)
    else ([], widest, c)

/-- The place behind the spaces up to a column. -/
def skipIndent (indent : Nat) : (fuel : Nat) → Cursor → Cursor
  | 0, c => c
  | fuel + 1, c => if c.column < indent && c.peek == ' ' then skipIndent indent fuel c.step else c

/-- The line ends of empty lines in a block scalar. -/
def readBlockBreaks (indent : Nat) : (fuel : Nat) → Cursor → List Char × Cursor
  | 0, c => ([], c)
  | fuel + 1, c =>
    let c := skipIndent indent indent c
    if isBreak c.peek then
      let (b, c) := c.readBreak
      let (bs, c) := readBlockBreaks indent fuel c
      (b ++ bs, c)
    else ([], c)

/-- The lines of a block scalar: the text before the last line end, that line end, and those of the
empty lines after it. -/
def readBlockLines (folded : Bool) (indent : Nat) :
    (fuel : Nat) → (breaks : List Char) → Cursor → List Char × List Char × List Char × Cursor
  | 0, breaks, c => ([], [], breaks, c)
  | fuel + 1, breaks, c =>
    if c.column == indent && !isEnd c.peek then
      let flush := !(c.peek == ' ' || c.peek == '\t')
      let (line, c) := c.span fun x => !isBreakOrEnd x
      let (lineBreak, c) := c.readBreak
      let (next, c) := readBlockBreaks indent (c.rest.length + 1) c
      if c.column == indent && !isEnd c.peek then
        let joint :=
          if folded && lineBreak == ['\n'] && flush && !(c.peek == ' ' || c.peek == '\t') then
            if next.isEmpty then [' '] else []
          else lineBreak
        let (text, lastBreak, trailing, c) := readBlockLines folded indent fuel next c
        (breaks ++ line ++ joint ++ text, lastBreak, trailing, c)
      else (breaks ++ line, lineBreak, next, c)
    else ([], [], breaks, c)

/-- A block scalar. `parent` is the indentation of the block that holds it. -/
def readBlock (folded : Bool) (parent : Int) (c : Cursor) : Except Fault (Scalar × Cursor) := do
  let ((chomping, increment), c) ← readBlockHeader c.mark c.step
  let least := max 1 (parent + 1).toNat
  let (breaks, indent, c) := match increment with
    | none =>
      let (breaks, widest, c) := readBlockIndent (c.rest.length + 1) 0 c
      (breaks, max least widest, c)
    | some d =>
      let indent := least + d - 1
      let (breaks, c) := readBlockBreaks indent (c.rest.length + 1) c
      (breaks, indent, c)
  let (text, lastBreak, trailing, c) := readBlockLines folded indent (c.rest.length + 1) breaks c
  let ending := match chomping with
    | .strip => []
    | .clip => lastBreak
    | .keep => lastBreak ++ trailing
  return (⟨text ++ ending, false, none⟩, c)

/-! ## Plain scalars -/

/-- The number of characters of a plain scalar up to the next blank or indicator. -/
def plainLength (flow : Bool) : List Char → Nat
  | [] => 0
  | x :: rest =>
    let next := rest.headD '\x00'
    let isFlowMark (y : Char) := y == ',' || y == '[' || y == ']' || y == '\x7b' || y == '\x7d'
    if isSeparator x then 0
    else if x == ':' && (isSeparator next || (flow && isFlowMark next)) then 0
    else if flow && (isFlowMark x || x == '?') then 0
    else plainLength flow rest + 1

/-- The line ends of empty lines in a plain scalar; nothing if a document indicator follows. -/
def readPlainBreaks : (fuel : Nat) → Cursor → Option (List Char) × Cursor
  | 0, c => (some [], c)
  | fuel + 1, c =>
    if c.peek == ' ' then readPlainBreaks fuel c.step
    else if isBreak c.peek then
      let (b, c) := c.readBreak
      if c.atDocumentEdge then (none, c)
      else
        let (bs, c) := readPlainBreaks fuel c
        (bs.map (b ++ ·), c)
    else (some [], c)

/-- The blanks behind a part of a plain scalar: their text, whether a line ended, and the place
behind them. An empty text ends the scalar. -/
def readPlainBlanks (c : Cursor) : List Char × Bool × Cursor :=
  let (blanks, c) := c.span (· == ' ')
  if isBreak c.peek then
    let (b, c) := c.readBreak
    if c.atDocumentEdge then ([], true, c)
    else
      match readPlainBreaks (c.rest.length + 1) c with
      | (none, c) => ([], true, c)
      | (some bs, c) => (foldBreaks b bs, true, c)
  else (blanks, false, c)

/-- The parts of a plain scalar, with the blanks before each, and whether a line ended behind
the last one. -/
def readPlainParts (flow : Bool) (indent : Int) :
    (fuel : Nat) → (blanks : List Char) → (broken : Bool) → Cursor → List Char × Bool × Cursor
  | 0, _, broken, c => ([], broken, c)
  | fuel + 1, blanks, broken, c =>
    let n := if c.peek == '#' then 0 else plainLength flow c.rest
    if n == 0 then ([], broken, c)
    else
      let part := c.rest.take n
      let (next, broken, c) := readPlainBlanks (c.skip n)
      if next.isEmpty || c.peek == '#' || (!flow && (c.column : Int) < indent) then
        (blanks ++ part, broken, c)
      else
        let (text, broken, c) := readPlainParts flow indent fuel next broken c
        (blanks ++ part ++ text, broken, c)

/-- A plain scalar, and whether a line ended behind it. -/
def readPlain (flow : Bool) (parent : Int) (c : Cursor) : Scalar × Bool × Cursor :=
  let (text, broken, c) := readPlainParts flow (parent + 1) (c.rest.length + 1) [] false c
  (⟨text, true, none⟩, broken, c)

end Transplant.Yaml
