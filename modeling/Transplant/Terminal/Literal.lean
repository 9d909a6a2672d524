import Transplant.Number.Numeral
import Transplant.Terminal.Lexicon
import Transplant.Text.Word

/-!
# Literals

The values that a tag may hand over behind its name: numbers, quoted texts, the constants `None`, `True`
and `False`, and tuples, sets and mappings of such values. A text is cut into symbols first, so what
is wrong with its quotes and brackets is told before anything else.

This is the reader of a lexicon for runs and examples. It does not look up the characters that a quoted text calls
by name, and what it says of a text that is some other expression is said in fewer words.
-/

namespace Transplant.Terminal.Literal

/-- Why a text is no literal. -/
inductive Fault where
  | nullCharacter
  | unfinishedText (long : Bool) (line : Nat)
  | unmatched (close : Char)
  | mismatched (close opener : Char)
  | neverClosed (opener : Char)
  | tooDeep
  | badNumber (base : String)
  | badDigit (base : String) (digit : Char)
  | leadingZeros
  | tooManyDigits (count : Nat)
  | badEscape
  | foreignBytes
  | badCharacter (c : Char)
  | strayBackslash
  | endBehindBackslash
  | indented
  | missingComma
  | missingColon
  | missingValue
  | meaningless
  | unhashable (typeName : String)
deriving DecidableEq, Repr

/-- The words of a fault. -/
def Fault.message : Fault → String
  | .nullCharacter => "source code string cannot contain null bytes"
  | .unfinishedText long line =>
    "unterminated " ++ (if long then "triple-quoted " else "") ++ "string literal (detected at line " ++
      Text.decimal line ++ ")"
  | .unmatched c => "unmatched '" ++ c.toString ++ "'"
  | .mismatched c opener =>
    "closing parenthesis '" ++ c.toString ++ "' does not match opening parenthesis '" ++
      opener.toString ++ "'"
  | .neverClosed c => "'" ++ c.toString ++ "' was never closed"
  | .tooDeep => "too many nested parentheses"
  | .badNumber base => "invalid " ++ base ++ " literal"
  | .badDigit base c => "invalid digit '" ++ c.toString ++ "' in " ++ base ++ " literal"
  | .leadingZeros =>
    "leading zeros in decimal integer literals are not permitted; use an 0o prefix for octal integers"
  | .tooManyDigits n =>
    (Numeral.Fault.tooLong n).message ++
      " - Consider hexadecimal for huge integer literals to avoid decimal conversion limits."
  | .badEscape => "(unicode error) 'unicodeescape' codec can't decode bytes"
  | .foreignBytes => "bytes can only contain ASCII literal characters"
  | .badCharacter c =>
    "invalid character '" ++ c.toString ++ "' (U+" ++
      String.ofList (Text.hex true (if c.toNat < 0x10000 then 4 else 6) c.toNat) ++ ")"
  | .strayBackslash => "unexpected character after line continuation character"
  | .endBehindBackslash => "unexpected EOF while parsing"
  | .indented => "unexpected indent"
  | .missingComma => "invalid syntax. Perhaps you forgot a comma?"
  | .missingColon => "':' expected after dictionary key"
  | .missingValue => "expression expected after dictionary key and ':'"
  | .meaningless => "invalid syntax"
  | .unhashable name => "unhashable type: '" ++ name ++ "'"

/-- A fault as the reader tells it. -/
def Fault.told (why : Fault) : LiteralFault :=
  match why with
  | .unhashable _ => .other why.message
  | _ => .grammar why.message

/-! ## Numbers -/

/-- A symbol: a number, imaginary or not, a text, of bytes or not, a word, or a single character. -/
inductive Symbol where
  | number (imaginary : Bool)
  | text (bytes : Bool)
  | word (name : String)
  | mark (c : Char)
deriving DecidableEq, Repr

/-- What follows the digits at the start of a text, with single underscores between them. -/
def afterDigits (isDigit : Char → Bool) : List Char → List Char
  | c :: '_' :: d :: rest =>
    if isDigit c && isDigit d then afterDigits isDigit (d :: rest)
    else if isDigit c then '_' :: d :: rest
    else c :: '_' :: d :: rest
  | c :: rest => if isDigit c then afterDigits isDigit rest else c :: rest
  | [] => []

/-- What follows the exponent at the start of a text, if there is one. -/
def afterExponent (cs : List Char) : List Char :=
  match cs with
  | mark :: rest =>
    let digits := match rest with
      | '+' :: ds | '-' :: ds => ds
      | ds => ds
    if mark.toLower == 'e' && digits.head?.any Char.isDigit then afterDigits Char.isDigit digits else cs
  | [] => cs

/-- A base that is marked by a letter behind a zero. -/
structure Base where
  mark : Char
  name : String
  size : Nat

/-- The bases with marks. -/
def bases : List Base :=
  [⟨'x', "hexadecimal", 16⟩, ⟨'o', "octal", 8⟩, ⟨'b', "binary", 2⟩]

/-- Whether a character is a digit in a base. -/
def Base.isDigit (b : Base) (c : Char) : Bool :=
  (Text.hexValue? c).any (· < b.size)

/-- The number in a base behind its mark, and what follows it. -/
def Base.readNumber (b : Base) (cs : List Char) : Except Fault (Symbol × List Char) :=
  let digits := match cs with
    | '_' :: ds => ds
    | ds => ds
  let rest := afterDigits b.isDigit digits
  let wrong (c : Char) : Fault := if c.isDigit then .badDigit b.name c else .badNumber b.name
  match digits.head?.filter fun c => !b.isDigit c, rest.head?.filter Text.isWordChar with
  | some c, _ | none, some c => .error (wrong c)
  | none, none => if digits.isEmpty then .error (.badNumber b.name) else .ok (.number false, rest)

/-- The decimal number at the start of a text, and what follows it. -/
def readDecimal (cs : List Char) : Except Fault (Symbol × List Char) :=
  let behind := afterDigits Char.isDigit cs
  let whole := cs.take (cs.length - behind.length)
  let behindPoint := match behind with
    | '.' :: rest => afterDigits Char.isDigit rest
    | rest => rest
  let (imaginary, rest) := match afterExponent behindPoint with
    | c :: rest => if c.toLower == 'j' then (true, rest) else (false, c :: rest)
    | [] => (false, [])
  let digits := whole.filter (· != '_')
  if rest.head?.any Text.isWordChar then .error (.badNumber "decimal")
  else if rest.length < behind.length then .ok (.number imaginary, rest)
  else if digits.head? == some '0' && digits.any (· != '0') then .error .leadingZeros
  else if digits.length > Numeral.maxDigits then .error (.tooManyDigits digits.length)
  else .ok (.number false, rest)

/-- The number at the start of a text, and what follows it. -/
def readNumber (cs : List Char) : Except Fault (Symbol × List Char) :=
  match cs with
  | '0' :: mark :: rest =>
    match bases.find? (·.mark == mark.toLower) with
    | some b => b.readNumber rest
    | none => readDecimal cs
  | _ => readDecimal cs

/-! ## Texts -/

/-- The letters that may stand before a quote. -/
def textMarks : List String := ["r", "u", "b", "br", "rb"]

/-- The characters up to the quotes that end a text, and what follows them. -/
def splitText (long : Bool) (quote : Char) : List Char → Option (List Char × List Char)
  | [] => none
  | '\\' :: c :: rest => (splitText long quote rest).map fun (body, after) => ('\\' :: c :: body, after)
  | c :: rest =>
    if c == quote && !long then some ([], rest)
    else if c == quote && rest.take 2 == [quote, quote] then some ([], rest.drop 2)
    else if c == '\n' && !long then none
    else (splitText long quote rest).map fun (body, after) => (c :: body, after)

/-- The hexadecimal digits that must follow a letter behind a backslash. -/
def escapeWidth (bytes : Bool) (letter : Char) : Nat :=
  if letter == 'x' then 2
  else if bytes then 0
  else if letter == 'u' then 4
  else if letter == 'U' then 8
  else 0

/-- Whether a letter behind a backslash is followed by what it needs. -/
def isEscape (bytes : Bool) (letter : Char) (rest : List Char) : Bool :=
  let width := escapeWidth bytes letter
  let digits := (rest.take width).filterMap Text.hexValue?
  let point := digits.foldl (fun n d => 16 * n + d) 0
  if letter == 'N' && !bytes then
    rest.head? == some '{' && (rest.drop 1).head? != some '}' && rest.contains '}'
  else digits.length == width && point < 0x110000

/-- Whether each backslash in a text is followed by what it needs. -/
def escapesAreGood (bytes : Bool) : List Char → Bool
  | [] => true
  | '\\' :: c :: rest => isEscape bytes c rest && escapesAreGood bytes rest
  | _ :: rest => escapesAreGood bytes rest

/-- The text at the start of some characters, with letters before its quotes, and what follows it. The number is
that of the line where it starts. -/
def readText (letters : String) (line : Nat) (quote : Char) (cs : List Char) : Except Fault (Symbol × List Char) :=
  let bytes := letters.contains 'b'
  let long := cs.take 2 == [quote, quote]
  match splitText long quote (if long then cs.drop 2 else cs) with
  | none => .error (.unfinishedText long (if long then line + cs.count '\n' else line))
  | some (body, rest) =>
    if bytes && body.any (·.toNat ≥ 0x80) then .error .foreignBytes
    else if !letters.contains 'r' && !escapesAreGood bytes body then .error .badEscape
    else .ok (.text bytes, rest)

/-! ## Symbols -/

/-- The number of brackets that may be open at a time. -/
def maxDepth : Nat := 200

/-- The opening bracket that a closing one belongs to. -/
def opener (close : Char) : Char :=
  if close == ')' then '(' else '{'

/-- The symbols of a text; `opened` are the brackets open there, and `lines` counts the line feeds of the whole
text. Each symbol takes a character, so the length of the text is enough fuel. -/
def symbols (lines : Nat) : (fuel : Nat) → (opened : List Char) → List Char → Except Fault (List Symbol)
  | 0, _, _ => .ok []
  | _, opened, [] => match opened with
    | [] => .ok []
    | c :: _ => .error (.neverClosed c)
  | fuel + 1, opened, c :: rest =>
    let name := (c :: rest).takeWhile Text.isWordChar
    let behind := (c :: rest).drop name.length
    let letters := Text.lower (String.ofList name)
    let next := if name.isEmpty then some c else if textMarks.contains letters then behind.head? else none
    let line := lines - (c :: rest).count '\n' + 1
    if c == ' ' || c == '\t' || c == '\x0c' then symbols lines fuel opened rest
    else if c == '\n' then do
      let inner := rest.dropWhile fun x => x == ' ' || x == '\t'
      if !opened.isEmpty then symbols lines fuel opened rest
      else if inner.length < rest.length && inner.head?.any fun x => x != '\n' && x != '#' then .error .indented
      else return .mark c :: (← symbols lines fuel opened rest)
    else if c == '#' then symbols lines fuel opened (rest.dropWhile (· != '\n'))
    else if next == some '\'' || next == some '"' then do
      let (text, rest) ← readText letters line (next.getD c) (if name.isEmpty then rest else behind.tail)
      return text :: (← symbols lines fuel opened rest)
    else if c.isDigit || (c == '.' && rest.head?.any Char.isDigit) then do
      let (number, rest) ← readNumber (c :: rest)
      return number :: (← symbols lines fuel opened rest)
    else if !name.isEmpty then return .word (String.ofList name) :: (← symbols lines fuel opened behind)
    else if c == '.' && rest.take 2 == ['.', '.'] then
      return .word "..." :: (← symbols lines fuel opened (rest.drop 2))
    else if c == '(' || c == '{' then
      if opened.length ≥ maxDepth then .error .tooDeep
      else do return .mark c :: (← symbols lines fuel (c :: opened) rest)
    else if c == ')' || c == '}' then
      match opened with
      | [] => .error (.unmatched c)
      | first :: others =>
        if first == opener c then do return .mark c :: (← symbols lines fuel others rest)
        else .error (.mismatched c first)
    else if c == '\\' then
      match rest with
      | '\n' :: [] => .error .endBehindBackslash
      | '\n' :: rest => symbols lines fuel opened rest
      | _ => .error .strayBackslash
    else if c.toNat < 0x80 then do return .mark c :: (← symbols lines fuel opened rest)
    else .error (.badCharacter c)

/-! ## Values -/

/-- What a value is as far as signs, sums and keys need it: a number, with a sign or not, or something else, whose type
is told if it cannot be a key. -/
inductive Shape where
  | number (imaginary signed : Bool)
  | other (unhashable : Option String)
deriving DecidableEq, Repr

/-- Why a value cannot be a key, if it cannot. -/
def Shape.unhashable? : Shape → Option String
  | .number .. => none
  | .other name => name

/-- The words for single values. -/
def constants : List String := ["None", "True", "False", "..."]

/-- What follows some texts side by side, all of bytes or none. -/
def afterTexts (bytes : Bool) : List Symbol → Except Fault (List Symbol)
  | .text b :: rest => if b == bytes then afterTexts bytes rest else .error .meaningless
  | rest => .ok rest

/-- Whether a symbol begins a value that cannot go on with the one before it. -/
def beginsValue : Symbol → Bool
  | .mark c => c == '{'
  | .word _ | .number _ | .text _ => true

/-- Values between brackets, or up to the end of the text: the only one if there is no comma, the type of the first that
cannot be a key, and whether they are keys. -/
structure Items where
  single : Option Shape := none
  unhashable : Option String := none
  keyed : Bool := false

/-- A value that no comma follows. -/
def Items.last (shape : Shape) (keyed : Bool) : Items :=
  { single := some shape, unhashable := shape.unhashable?, keyed := keyed }

/-- A value with a comma before other items. -/
def Items.before (shape : Shape) (keyed : Bool) (items : Items) : Items :=
  { unhashable := shape.unhashable? <|> items.unhashable, keyed := keyed }

/-- The shape of items between parentheses: the only one without a comma is that value, and others are a tuple. -/
def Items.tuple (items : Items) : Shape :=
  items.single.getD (.other items.unhashable)

/-- The shape of items between braces, if all of them can be keys. -/
def Items.braced (items : Items) : Except Fault Shape :=
  match items.unhashable with
  | some name => .error (.unhashable name)
  | none => .ok (.other (some (if items.keyed then "dict" else "set")))

mutual

/-- The shape of a value without sign and what follows it. -/
def readAtom : (fuel : Nat) → List Symbol → Except Fault (Shape × List Symbol)
  | 0, _ => .error .meaningless
  | fuel + 1, ss => match ss with
    | .number imaginary :: rest => .ok (.number imaginary false, rest)
    | .text bytes :: rest => (afterTexts bytes rest).map (.other none, ·)
    | .word "set" :: .mark '(' :: .mark ')' :: rest => .ok (.other (some "set"), rest)
    | .word name :: rest =>
      if constants.contains name then .ok (.other none, rest) else .error .meaningless
    | .mark '(' :: rest => (readItems fuel (some ')') none rest).map fun (items, rest) => (items.tuple, rest)
    | .mark '{' :: .mark '}' :: rest => .ok (.other (some "dict"), rest)
    | .mark '{' :: rest => do
      let (items, rest) ← readItems fuel (some '}') none rest
      return (← items.braced, rest)
    | _ => .error .meaningless

/-- The shape of a value and what follows it: an atom, a number with a sign, or a sum of a real and an imaginary
number. -/
def readValue : (fuel : Nat) → List Symbol → Except Fault (Shape × List Symbol)
  | 0, _ => .error .meaningless
  | fuel + 1, ss => do
    let isSign (c : Char) : Bool := c == '+' || c == '-'
    let (shape, rest) ← match ss with
      | .mark sign :: rest => do
        if isSign sign then
          match ← readAtom fuel rest with
          | (.number imaginary false, rest) => .ok (.number imaginary true, rest)
          | _ => .error .meaningless
        else readAtom fuel ss
      | ss => readAtom fuel ss
    match shape, rest with
    | .number false _, .mark sign :: after =>
      if isSign sign then
        match ← readAtom fuel after with
        | (.number true false, rest) => .ok (.other none, rest)
        | _ => .error .meaningless
      else return (shape, rest)
    | _, _ => return (shape, rest)

/-- Some values with commas between them up to a closing bracket, or to the end, and what follows. In
a mapping, which is known behind its first key, each value has a key. -/
def readItems : (fuel : Nat) → (close : Option Char) → (keyed : Option Bool) → List Symbol →
    Except Fault (Items × List Symbol)
  | 0, _, _, _ => .error .meaningless
  | fuel + 1, close, keyed, ss =>
    let ended : Option (List Symbol) := match close, ss with
      | none, [] => some []
      | some c, .mark d :: rest => if c == d then some rest else none
      | _, _ => none
    match ended with
    | some rest => .ok ({}, rest)
    | none => do
      let (shape, rest) ← readValue fuel ss
      let isEntry := close == some '}' && rest.head? == some (.mark ':')
      if keyed.any (· != isEntry) then .error (if isEntry then .meaningless else .missingColon)
      else if isEntry && (rest[1]? == some (.mark '}') || rest[1]? == some (.mark ',')) then
        .error .missingValue
      else
        let rest ← if isEntry then (readValue fuel rest.tail).map (·.2) else pure rest
        match rest, close with
        | .mark ',' :: rest, _ => do
          let (items, rest) ← readItems fuel close (some isEntry) rest
          return (items.before shape isEntry, rest)
        | [], none => .ok (.last shape isEntry, [])
        | .mark d :: rest, some c =>
          if c == d then .ok (.last shape isEntry, rest)
          else if d == '{' then .error .missingComma
          else .error .meaningless
        | s :: _, some _ => .error (if beginsValue s then .missingComma else .meaningless)
        | _, _ => .error .meaningless

end

/-- The text with each carriage return, alone or before a line feed, as a line feed. -/
def withLineFeeds : List Char → List Char
  | '\r' :: '\n' :: rest => '\n' :: withLineFeeds rest
  | '\r' :: rest => '\n' :: withLineFeeds rest
  | c :: rest => c :: withLineFeeds rest
  | [] => []

/-- Checks that a text is a literal, or several ones with commas between them. -/
def check (cs : List Char) : Except Fault Unit := do
  if cs.contains '\x00' then .error .nullCharacter
  let cs := withLineFeeds cs
  let ss ← symbols (cs.count '\n') (cs.length + 1) [] cs
  let isFeed (s : Symbol) : Bool := s == .mark '\n'
  let ss := ((ss.dropWhile isFeed).reverse.dropWhile isFeed).reverse
  if ss.isEmpty then .error .meaningless
  else (readItems (3 * ss.length + 3) none none ss).map fun _ => ()

end Transplant.Terminal.Literal
