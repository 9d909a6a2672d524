import Transplant.Terminal.Emoji
import Transplant.Terminal.Style
import Transplant.Text.Word

/-!
# Markup

Texts with tags between brackets. A tag names a style, `/` closes the one opened last and `/name` the last
one of that name. Behind `=` a tag has parameters, which belong to the style or, behind a name with `@`,
are literals for an action. An odd number of backslashes before a tag makes it text. What remains to
be seen is the text without its tags.
-/

namespace Transplant.Terminal

variable [Lexicon]

/-- Why a text has no sense as markup. -/
inductive MarkupFault where
  | notOpen (tag : List Char) (position : Nat)
  | nothingOpen (position : Nat)
  | parameters (read all : String) (why : LiteralFault)
  | numeral (why : Numeral.Fault)
deriving DecidableEq, Repr

/-- The words of a fault. -/
def MarkupFault.message : MarkupFault → String
  | .notOpen tag position =>
    "closing tag '[" ++ String.ofList tag ++ "]' at position " ++ Text.decimal position ++
      " doesn't match any open tag"
  | .nothingOpen position =>
    "closing tag '[/]' at position " ++ Text.decimal position ++ " has nothing to close"
  | .parameters read all (.grammar words) =>
    "error parsing " ++ Text.quoted read ++ " in " ++ Text.quoted all ++ "; " ++ words
  | .parameters _ all (.other words) => "error parsing " ++ Text.quoted all ++ "; " ++ words
  | .numeral why => why.message

namespace Markup

/-- A run of text, or a tag with the backslashes before it. -/
inductive Token where
  | text (cs : List Char)
  | tag (slashes : Nat) (body : List Char)
deriving DecidableEq, Repr

/-- Whether a character may be the first one of a tag. -/
def startsTag (c : Char) : Bool :=
  ('a' ≤ c && c ≤ 'z') || c == '#' || c == '/' || c == '@'

/-- Reads a tag. -/
def readTag : List Char → Option (List Char × List Char)
  | '[' :: c :: rest =>
    let run := rest.takeWhile fun x => x != '[' && x != ']'
    match startsTag c, rest.drop run.length with
    | true, ']' :: after => some (c :: run, after)
    | _, _ => none
  | _ => none

/-- The text before the next tag, and the tag with the backslashes before it and what follows. -/
def nextTag : (slashes : Nat) → List Char → List Char × Option (Nat × List Char × List Char)
  | slashes, [] => (List.replicate slashes '\\', none)
  | slashes, c :: rest =>
    if c == '\\' then nextTag (slashes + 1) rest
    else match readTag (c :: rest) with
      | some (body, after) => ([], some (slashes, body, after))
      | none =>
        let (run, found) := nextTag 0 rest
        (List.replicate slashes '\\' ++ c :: run, found)

/-- The tokens of a text; each but the last takes a tag, so the length of the text is enough fuel. -/
def readTokens : (fuel : Nat) → List Char → List Token
  | 0, _ => []
  | fuel + 1, cs =>
    let text (run : List Char) : List Token := if run.isEmpty then [] else [.text run]
    match nextTag 0 cs with
    | (run, none) => text run
    | (run, some (slashes, body, after)) => text run ++ .tag slashes body :: readTokens fuel after

/-- The tokens of a text. -/
def tokens (cs : List Char) : List Token :=
  readTokens (cs.length + 1) cs

/-! ## Escaping -/

/-- A tag as text. -/
def bracketed (body : List Char) : List Char :=
  '[' :: body ++ [']']

/-- A token that is not to be read as a tag. -/
def Token.escaped : Token → List Char
  | .text cs => cs
  | .tag slashes body => List.replicate (2 * slashes + 1) '\\' ++ bracketed body

/-- Whether a text ends with one backslash only. -/
def endsWithSlash (cs : List Char) : Bool :=
  match cs.reverse with
  | '\\' :: '\\' :: _ => false
  | '\\' :: _ => true
  | _ => false

/-- A text in which no tag is read as one. A backslash at its end is doubled. -/
def escape (s : String) : String :=
  let out := (tokens s.toList).flatMap Token.escaped
  String.ofList (if endsWithSlash out then out ++ ['\\'] else out)

/-! ## Showing -/

/-- A text with its escaped brackets as brackets. -/
def unescape : List Char → List Char
  | '\\' :: '[' :: rest => '[' :: unescape rest
  | c :: rest => c :: unescape rest
  | [] => []

/-- Whether a character is one of the controls that are not shown: bell, backspace, the vertical
tab, form feed and carriage return. -/
def isDropped (c : Char) : Bool :=
  c == '\x07' || c == '\x08' || c == '\x0b' || c == '\x0c' || c == '\r'

/-- A run of text as it is shown. -/
def shown (cs : List Char) : List Char :=
  let cs := unescape cs
  (replaceCodes cs.length cs).filter fun c => !isDropped c

/-- A tag that was opened: its name in normal form and its parameters. -/
structure Opened where
  name : String
  parameters : Option String
deriving DecidableEq, Repr

/-- The style that an opened tag gives to a text. -/
def Opened.definition (t : Opened) : String :=
  match t.parameters with
  | some ps => t.name ++ " " ++ ps
  | none => t.name

/-- The literals among the parameters of an action: all of it, or what is between the parentheses
behind its name. -/
def arguments (cs : List Char) : List Char :=
  let args := cs.dropWhile fun c => Text.isWordChar c || c == '.'
  if args.isEmpty then []
  else if args.head? == some '(' && args.getLast? == some ')' && !args.contains '\n' then args
  else cs

/-- Checks the parameters of a tag that is closed, if it names an action. -/
def Opened.close (t : Opened) : Except MarkupFault Unit :=
  match t.parameters with
  | some ps =>
    let args := arguments (Text.trimBy Text.isBlank ps.toList)
    if t.name.startsWith "@" && !args.isEmpty then
      (Lexicon.readLiteral args).mapError (.parameters (String.ofList args) ps)
    else .ok ()
  | none => .ok ()

/-- The tags open behind a tag at a position. -/
def step (position : Nat) (tags : List Opened) (body : List Char) : Except MarkupFault (List Opened) := do
  let name := body.takeWhile (· != '=')
  match name with
  | '/' :: closed =>
    let closed := Text.trimBy Text.isBlank closed
    if closed.isEmpty then
      match tags with
      | [] => .error (.nothingOpen position)
      | t :: tags => do
        t.close
        return tags
    else do
      let closed ← (Style.normalize closed).mapError .numeral
      match tags.find? (·.name == closed) with
      | none => .error (.notOpen body position)
      | some t => do
        t.close
        return tags.eraseP (·.name == closed)
  | name => do
    let behind := body.drop name.length
    let parameters := if behind.isEmpty then none else some (String.ofList behind.tail)
    return ⟨← (Style.normalize name).mapError .numeral, parameters⟩ :: tags

/-- What is seen of a text, and the definitions of the styles that it is drawn with. -/
structure Seen where
  text : List Char
  styles : List String
deriving DecidableEq, Repr

/-- A text behind others. -/
def Seen.after (before : List Char) (s : Seen) : Seen :=
  { s with text := before ++ s.text }

/-- The definition of the tag that was opened last. -/
def definitionsOf (before after : List Opened) : List String :=
  if before.length < after.length then (after.head?.map (·.definition)).toList else []

/-- What is seen of some tokens from a position on, with the tags that are open there. -/
def showTokens : (position : Nat) → (tags : List Opened) → List Token → Except MarkupFault Seen
  | _, _, [] => .ok ⟨[], []⟩
  | position, tags, .text cs :: rest => do
    return (← showTokens (position + cs.length) tags rest).after (shown cs)
  | position, tags, .tag slashes body :: rest => do
    let next := position + slashes + body.length + 2
    let halved := shown (List.replicate (slashes / 2) '\\')
    if slashes % 2 == 1 then
      return (← showTokens next tags rest).after (halved ++ shown (bracketed body))
    else
      let open' ← step (position + slashes) tags body
      let seen ← showTokens next open' rest
      return { text := halved ++ seen.text, styles := definitionsOf tags open' ++ seen.styles }

/-- What is seen of a text with markup, before it is drawn. -/
def read (markup : String) : Except MarkupFault Seen :=
  showTokens 0 [] (tokens markup.toList)

/-- Draws a text: the definitions of its styles are looked up. -/
def Seen.draw (s : Seen) : Except MarkupFault (List Char) := do
  (s.styles.forM Style.check).mapError .numeral
  return s.text

/-- What is seen of a text with markup that is drawn. -/
def visible (markup : String) : Except MarkupFault (List Char) := do
  (← read markup).draw

end Markup

end Transplant.Terminal
