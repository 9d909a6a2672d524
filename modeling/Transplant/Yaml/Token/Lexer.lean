import Transplant.Yaml.Source
import Transplant.Yaml.Token.Scalar

/-!
# From text to tokens

Reads a document token by token, as far as the tokens are asked for. A token that may turn out to be a
key is remembered with its place until its `:` comes, its line ends or it grows too long; the key's
tokens are then put in front of it, and until then no later token is handed on.
-/

namespace Transplant.Yaml

/-- A token that may be a key: its number, whether it has to be one, and where it starts. -/
structure PossibleKey where
  number : Nat
  required : Bool
  index : Nat
  mark : Mark

/-- The state of the reader: the place in the document, the tokens read but not taken, the number of
those taken, and the open collections. -/
structure Lexer where
  cursor : Cursor
  tokens : List Piece := []
  taken : Nat := 0
  flow : Nat := 0
  indent : Int := -1
  indents : List Int := []
  allowKey : Bool := true
  keys : List (Nat × PossibleKey) := []
  finished : Bool := false

namespace Lexer

/-- The reader with one more token, which starts and ends at given places. -/
def push (l : Lexer) (t : Token) (start stop : Mark) : Lexer :=
  { l with tokens := l.tokens ++ [⟨t, start, stop⟩] }

/-- The reader with one more token, which holds no characters of the document. -/
def pushHere (l : Lexer) (t : Token) : Lexer :=
  l.push t l.cursor.mark l.cursor.mark

/-- The reader behind a token that starts here. -/
def pushUpTo (l : Lexer) (t : Token) (c : Cursor) : Lexer :=
  { (l.push t l.cursor.mark c.mark) with cursor := c }

/-- The reader behind a token of `n` characters. -/
def fixed (l : Lexer) (t : Token) (n : Nat) : Lexer :=
  l.pushUpTo t (l.cursor.skip n)

/-- The reader with a token put before that of a key. -/
def insertBefore (l : Lexer) (k : PossibleKey) (t : Token) : Lexer :=
  let n := k.number - l.taken
  { l with tokens := l.tokens.take n ++ ⟨t, k.mark, k.mark⟩ :: l.tokens.drop n }

/-- The possible key of the present nesting. -/
def key? (l : Lexer) : Option PossibleKey :=
  (l.keys.find? fun k => k.1 == l.flow).map (·.2)

/-- The fault of a key without its `:`. -/
def refuseKey {α : Type} (l : Lexer) (k : PossibleKey) : Except Fault α :=
  l.cursor.refuseIn .scanning "a simple key" k.mark .noColon

/-- Forgets the possible key of the present nesting, unless it has to be one. -/
def dropKey (l : Lexer) : Except Fault Lexer :=
  match l.key? with
  | some k => if k.required then l.refuseKey k else .ok { l with keys := l.keys.filter (·.1 != l.flow) }
  | none => .ok l

/-- Forgets the possible keys whose line has ended or that have grown too long. -/
def dropStaleKeys (l : Lexer) : Except Fault Lexer :=
  let isStale (k : PossibleKey) : Bool :=
    k.mark.line != l.cursor.line || l.cursor.index - k.index > 1024
  match l.keys.find? fun k => isStale k.2 && k.2.required with
  | some k => l.refuseKey k.2
  | none => .ok { l with keys := l.keys.filter fun k => !isStale k.2 }

/-- Remembers that the next token may be a key. -/
def saveKey (l : Lexer) : Except Fault Lexer :=
  let required := l.flow == 0 && l.indent == l.cursor.column
  if l.allowKey then do
    let l ← l.dropKey
    let number := l.taken + l.tokens.length
    return { l with keys := (l.flow, ⟨number, required, l.cursor.index, l.cursor.mark⟩) :: l.keys }
  else .ok l

/-- Ends the blocks that are indented more than a column. -/
def unwind (l : Lexer) (column : Int) : Lexer :=
  if l.flow > 0 then l
  else
    let ended := (l.indent :: l.indents).takeWhile (· > column)
    let left := (l.indent :: l.indents).dropWhile (· > column)
    { l with
      tokens := l.tokens ++ List.replicate ended.length ⟨.blockEnd, l.cursor.mark, l.cursor.mark⟩
      indent := left.headD (-1)
      indents := left.tail }

/-- Starts a block at a column, unless one with this indentation is open. -/
def indentTo (l : Lexer) (column : Int) : Option Lexer :=
  if l.indent < column then some { l with indent := column, indents := l.indent :: l.indents } else none

/-- Steps over blanks, comments and line ends to the next token. -/
def skipToToken : (fuel : Nat) → Lexer → Lexer
  | 0, l => l
  | fuel + 1, l =>
    let c := l.cursor.skipSpaces.skipComment
    if isBreak c.peek then
      skipToToken fuel { l with cursor := c.readBreak.2, allowKey := l.allowKey || l.flow == 0 }
    else { l with cursor := c }

/-! ## Directives, tags and names -/

/-- The fault of a character in the place of something else, inside a directive, name or tag that
starts at a mark. -/
def refuseChar {α : Type} (c : Cursor) (subject : String) (start : Mark) (wanted : String) :
    Except Fault α :=
  c.refuseIn .scanning subject start (.expected wanted (.char c.peek))

/-- The number at a place in a directive. -/
def readNumber (start : Mark) (c : Cursor) : Except Fault (Nat × Cursor) :=
  let (ds, after) := c.span fun x => '0' ≤ x && x ≤ '9'
  match ds with
  | [] => refuseChar c "a directive" start "a digit"
  | ds => .ok ((Text.valueOf? ds).getD 0, after)

/-- A tag handle: `!`, `!!` or `!name!`. -/
def readHandle (subject : String) (start : Mark) (c : Cursor) : Except Fault (List Char × Cursor) :=
  if c.peek != '!' then refuseChar c subject start "'!'"
  else if c.peek 1 == ' ' then .ok (['!'], c.step)
  else
    let (name, after) := c.step.span isWord
    if after.peek != '!' then refuseChar after subject start "'!'"
    else .ok ('!' :: name ++ ['!'], after.step)

/-- Whether a character may occur in the suffix of a tag. -/
def isUri (x : Char) : Bool :=
  isWord x || "-;/?:@&=+$,_.!~*'()[]%".toList.contains x

/-- The bytes of a run of `%` escapes. -/
def readUriBytes (subject : String) (start : Mark) :
    (fuel : Nat) → Cursor → Except Fault (List UInt8 × Cursor)
  | 0, c => .ok ([], c)
  | fuel + 1, c =>
    if c.peek != '%' then .ok ([], c)
    else
      let refuse (x : Char) : Except Fault (List UInt8 × Cursor) :=
        c.step.refuseIn .scanning subject start
          (.expected "URI escape sequence of 2 hexadecimal numbers" (.char x))
      match Text.hexValue? (c.peek 1), Text.hexValue? (c.peek 2) with
      | none, _ => refuse (c.peek 1)
      | some _, none => refuse (c.peek 2)
      | some a, some b => do
        let (bs, c) ← readUriBytes subject start fuel (c.skip 3)
        return ((16 * a + b).toUInt8 :: bs, c)

/-- The characters of a tag suffix. -/
def readUriRest (subject : String) (start : Mark) :
    (fuel : Nat) → Cursor → Except Fault (List Char × Cursor)
  | 0, c => .ok ([], c)
  | fuel + 1, c =>
    if c.peek == '%' then do
      let (bs, after) ← readUriBytes subject start (c.rest.length + 1) c
      match Text.decodeStrict bs with
      | .error why => c.refuseIn .scanning subject start (.badEscape why)
      | .ok cs =>
        let (rest, after) ← readUriRest subject start fuel after
        return (cs ++ rest, after)
    else if isUri c.peek then do
      let (rest, after) ← readUriRest subject start fuel c.step
      return (c.peek :: rest, after)
    else .ok ([], c)

/-- The suffix of a tag, which is not empty. -/
def readUri (subject : String) (start : Mark) (c : Cursor) : Except Fault (List Char × Cursor) := do
  let (cs, after) ← readUriRest subject start (c.rest.length + 1) c
  if after.index == c.index then
    c.refuseIn .parsing subject start (.expected "URI" (.char c.peek))
  else return (cs, after)

/-- The version in a directive. -/
def readVersion (start : Mark) (c : Cursor) : Except Fault (Token × Cursor) := do
  let (major, c) ← readNumber start c.skipSpaces
  if c.peek != '.' then refuseChar c "a directive" start "a digit or '.'"
  let (_, c) ← readNumber start c.step
  if !isSpaceOrBreak c.peek then refuseChar c "a directive" start "a digit or ' '"
  return (.version major, c)

/-- The tag handle and its meaning in a directive. -/
def readTagHandle (start : Mark) (c : Cursor) : Except Fault (Token × Cursor) := do
  let (handle, c) ← readHandle "a directive" start c.skipSpaces
  if c.peek != ' ' then refuseChar c "a directive" start "' '"
  let (expansion, c) ← readUri "a directive" start c.skipSpaces
  if !isSpaceOrBreak c.peek then refuseChar c "a directive" start "' '"
  return (.tagHandle handle expansion, c)

/-- A directive line: its token, the place behind that and the next line. -/
def readDirective (c : Cursor) : Except Fault (Token × Cursor × Cursor) := do
  let start := c.mark
  let (name, c) := c.step.span isWord
  if name.isEmpty || !isSpaceOrBreak c.peek then
    refuseChar c "a directive" start "alphabetic or numeric character"
  let (token, stop, c) ←
    if name == "YAML".toList then do
      let (token, c) ← readVersion start c
      pure (token, c, c)
    else if name == "TAG".toList then do
      let (token, c) ← readTagHandle start c
      pure (token, c, c)
    else pure (.directive, c, c.skipWhile fun x => !isBreakOrEnd x)
  let c := c.skipSpaces.skipComment
  if isBreakOrEnd c.peek then return (token, stop, c.readBreak.2)
  else refuseChar c "a directive" start "a comment or a line break"

/-- The name of an anchor or alias. -/
def readName (subject : String) (c : Cursor) : Except Fault (List Char × Cursor) :=
  let (name, after) := c.step.span isWord
  let ends := isSeparator after.peek || "?:,]\x7d%@`".toList.contains after.peek
  if name.isEmpty || !ends then refuseChar after subject c.mark "alphabetic or numeric character"
  else .ok (name, after)

/-- A tag. -/
def readTag (c : Cursor) : Except Fault (Token × Cursor) := do
  let start := c.mark
  let x := c.peek 1
  let (token, c) ←
    if x == '<' then do
      let (suffix, c) ← readUri "a tag" start (c.skip 2)
      if c.peek != '>' then c.refuseIn .parsing "a tag" start (.expected "'>'" (.char c.peek))
      pure (Token.tag none suffix, c.step)
    else if isSeparator x then pure (Token.tag none ['!'], c.step)
    else
      let word := (c.rest.drop 1).takeWhile fun y => !isSpaceOrBreak y
      if word.contains '!' then do
        let (handle, c) ← readHandle "a tag" start c
        let (suffix, c) ← readUri "a tag" start c
        pure (Token.tag (some handle) suffix, c)
      else do
        let (suffix, c) ← readUri "a tag" start c.step
        pure (Token.tag (some ['!']) suffix, c)
  if isSpaceOrBreak c.peek then return (token, c) else refuseChar c "a tag" start "' '"

/-! ## Tokens -/

/-- Whether a plain scalar starts here. -/
def startsPlain (l : Lexer) : Bool :=
  let x := l.cursor.peek
  let isMark := isSeparator x || "-?:,[]\x7b\x7d#&*!|>'\"%@`".toList.contains x
  !isMark || (!isSeparator (l.cursor.peek 1) &&
    (x == '-' || (l.flow == 0 && (x == '?' || x == ':'))))

/-- Ends every open block before a line of the document as a whole. -/
def closeAll (l : Lexer) : Except Fault Lexer := do
  let l ← (l.unwind (-1)).dropKey
  return { l with allowKey := false }

/-- A token that may be a key. -/
def content (l : Lexer) (read : Cursor → Except Fault (Token × Cursor)) : Except Fault Lexer := do
  let l ← l.saveKey
  let (t, c) ← read l.cursor
  return { l with allowKey := false }.pushUpTo t c

/-- An indicator that stands for a key or entry of a block and may open the block. -/
def blockIndicator (l : Lexer) (opening : Token) (what : String) : Except Fault Lexer :=
  if l.flow > 0 then .ok l
  else if !l.allowKey then l.cursor.refuse (.misplaced what)
  else match l.indentTo l.cursor.column with
    | some l' => .ok (l'.pushHere opening)
    | none => .ok l

/-- The `:` before a value. -/
def valueIndicator (l : Lexer) : Except Fault Lexer :=
  match l.key? with
  | some k =>
    let l := { l with keys := l.keys.filter (·.1 != l.flow) }
    let l := l.insertBefore k .key
    let l := if l.flow > 0 then l else match l.indentTo k.mark.column with
      | some l' => l'.insertBefore k .blockMappingStart
      | none => l
    .ok ({ l with allowKey := false }.fixed .value 1)
  | none => do
    let l ← l.blockIndicator .blockMappingStart "mapping values"
    let l ← { l with allowKey := l.flow == 0 }.dropKey
    return l.fixed .value 1

/-- Reads the next token of what can be read. -/
def readToken (l : Lexer) : Except Fault Lexer := do
  let l := skipToToken (l.cursor.rest.length + 1) l
  let l ← l.dropStaleKeys
  let l := l.unwind l.cursor.column
  let c := l.cursor
  let x := c.peek
  if isEnd x then
    let l ← l.closeAll
    return { (l.pushHere .streamEnd) with keys := [], finished := true }
  else if x == '%' && c.column == 0 then
    let l ← l.closeAll
    let (t, stop, c) ← readDirective l.cursor
    return { (l.push t l.cursor.mark stop.mark) with cursor := c }
  else if c.column == 0 && c.atIndicator '-' then return (← l.closeAll).fixed .documentStart 3
  else if c.column == 0 && c.atIndicator '.' then return (← l.closeAll).fixed .documentEnd 3
  else if x == '[' || x == '\x7b' then
    let l ← l.saveKey
    let t := if x == '[' then Token.flowSequenceStart else .flowMappingStart
    return { l with flow := l.flow + 1, allowKey := true }.fixed t 1
  else if x == ']' || x == '\x7d' then
    let l ← l.dropKey
    let t := if x == ']' then Token.flowSequenceEnd else .flowMappingEnd
    return { l with flow := l.flow - 1, allowKey := false }.fixed t 1
  else if x == ',' then
    let l ← { l with allowKey := true }.dropKey
    return l.fixed .flowEntry 1
  else if x == '-' && isSeparator (c.peek 1) then
    let l ← l.blockIndicator .blockSequenceStart "sequence entries"
    let l ← { l with allowKey := true }.dropKey
    return l.fixed .blockEntry 1
  else if x == '?' && (l.flow > 0 || isSeparator (c.peek 1)) then
    let l ← l.blockIndicator .blockMappingStart "mapping keys"
    let l ← { l with allowKey := l.flow == 0 }.dropKey
    return l.fixed .key 1
  else if x == ':' && (l.flow > 0 || isSeparator (c.peek 1)) then l.valueIndicator
  else if x == '*' then l.content fun c => (readName "an alias" c).map fun (name, c) => (.alias name, c)
  else if x == '&' then l.content fun c => (readName "an anchor" c).map fun (name, c) => (.anchor name, c)
  else if x == '!' then l.content readTag
  else if (x == '|' || x == '>') && l.flow == 0 then
    let l ← { l with allowKey := true }.dropKey
    let (s, c) ← readBlock (x == '>') l.indent l.cursor
    return l.pushUpTo (.scalar s) c
  else if x == '\'' || x == '"' then
    l.content fun c => (readQuoted (x == '"') c).map fun (s, c) => (.scalar s, c)
  else if l.startsPlain then
    let l ← l.saveKey
    let (s, broken, c) := readPlain (l.flow > 0) l.indent l.cursor
    return { l with allowKey := broken }.pushUpTo (.scalar s) c
  else .error (.found (.noToken x) c.mark (some (.during .scanning "for the next token", none)))

/-- Reads the next token. To know where it ends, reading has to get behind it. -/
def next (l : Lexer) : Except Fault Lexer := do
  let l ← l.readToken
  match l.cursor.broken? with
  | some why => .error why
  | none => return l

/-- Reads on until the first token left can be handed on: there is one, and it cannot turn out to be a
key. Each step takes a character, so as much fuel as characters is enough. -/
def fill : (fuel : Nat) → Lexer → Except Fault Lexer
  | 0, l => .ok l
  | fuel + 1, l => do
    if l.finished then return l
    else if l.tokens.isEmpty then fill fuel (← l.next)
    else
      let l ← l.dropStaleKeys
      if l.keys.any fun k => k.2.number == l.taken then fill fuel (← l.next) else return l

/-- The reader at the start of a document; a byte order mark there does not count. -/
def start (source : Source) : Lexer :=
  let c : Cursor := ⟨source.chars, 0, 0, 0, source.broken⟩
  { cursor := if c.peek == '\ufeff' then c.step else c }

end Lexer

end Transplant.Yaml
