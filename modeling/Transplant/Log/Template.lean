/-!
# Templates

Texts with slots between braces. A slot has a name, which may go on with attributes and items, a
conversion behind `!` and a description behind `:`, in which further slots may stand. Two equal braces
in a row stand for one of the text.
-/

namespace Transplant.Log

/-- A slot of a template. -/
structure Slot where
  name : List Char
  conversion : Option Char := none
  description : List Char := []
deriving DecidableEq, Repr, Inhabited

/-- A part of a template: a run of text, which ends at the latest with a brace of its own, or a slot. -/
inductive Part where
  | text (cs : List Char)
  | slot (s : Slot)
deriving DecidableEq, Repr

/-- Why a text is no template. -/
inductive Flaw where
  | singleOpening
  | singleClosing
  | openingInName
  | unclosed
  | noConversion
  | noColon
  | openDescription
deriving DecidableEq, Repr

/-- The words for a flaw. -/
def Flaw.message : Flaw → String
  | .singleOpening => "Single '\x7b' encountered in format string"
  | .singleClosing => "Single '\x7d' encountered in format string"
  | .openingInName => "unexpected '\x7b' in field name"
  | .unclosed => "expected '\x7d' before end of string"
  | .noConversion => "end of string while looking for conversion specifier"
  | .noColon => "expected ':' after conversion specifier"
  | .openDescription => "unmatched '\x7b' in format spec"

namespace Part

/-- Reads the name of a slot up to the mark that ends it. Between brackets nothing ends it. -/
def readName : (bracketed : Bool) → List Char → Except Flaw (List Char × Char × List Char)
  | _, [] => .error .unclosed
  | bracketed, c :: rest =>
    let more (bracketed : Bool) := (readName bracketed rest).map fun (name, mark, rest) => (c :: name, mark, rest)
    if bracketed then more (c != ']')
    else if c == '\x7b' then .error .openingInName
    else if c == '\x7d' || c == ':' || c == '!' then .ok ([], c, rest)
    else more (c == '[')

/-- Reads a description up to the brace that closes its slot. -/
def readDescription : (depth : Nat) → List Char → Except Flaw (List Char × List Char)
  | _, [] => .error .openDescription
  | depth, c :: rest =>
    let more (depth : Nat) := (readDescription depth rest).map fun (cs, rest) => (c :: cs, rest)
    if c == '\x7b' then more (depth + 1)
    else if c == '\x7d' then
      match depth with
      | 0 => .ok ([], rest)
      | depth + 1 => more depth
    else more depth

/-- Reads a slot behind its opening brace. -/
def readSlot (cs : List Char) : Except Flaw (Slot × List Char) := do
  let (name, mark, rest) ← readName false cs
  let described (conversion : Option Char) (rest : List Char) : Except Flaw (Slot × List Char) :=
    (readDescription 0 rest).map fun (description, rest) => (⟨name, conversion, description⟩, rest)
  if mark == '\x7d' then return (⟨name, none, []⟩, rest)
  else if mark == ':' then described none rest
  else match rest with
    | [] => throw .noConversion
    | [_] => throw .openDescription
    | conversion :: '\x7d' :: rest => return (⟨name, some conversion, []⟩, rest)
    | conversion :: ':' :: rest => described (some conversion) rest
    | _ => throw .noColon

/-- Reads the parts of a template; each takes a character, so its length is enough fuel. -/
def readAll : (fuel : Nat) → List Char → Except Flaw (List Part)
  | 0, _ => .ok []
  | fuel + 1, cs =>
    let run := cs.takeWhile fun c => c != '\x7b' && c != '\x7d'
    let text (cs : List Char) : List Part := if cs.isEmpty then [] else [.text cs]
    match cs.drop run.length with
    | [] => .ok (text run)
    | '\x7b' :: '\x7b' :: rest => (readAll fuel rest).map (.text (run ++ ['\x7b']) :: ·)
    | '\x7d' :: '\x7d' :: rest => (readAll fuel rest).map (.text (run ++ ['\x7d']) :: ·)
    | '\x7d' :: _ => .error .singleClosing
    | [_] => .error .singleOpening
    | _ :: rest => do
      let (s, rest) ← readSlot rest
      return text run ++ .slot s :: (← readAll fuel rest)

/-- The parts of a template. -/
def ofTemplate (cs : List Char) : Except Flaw (List Part) :=
  readAll cs.length cs

/-- The parts of a template, if it is well-formed. -/
def ofTemplate? (cs : List Char) : Option (List Part) :=
  (ofTemplate cs).toOption

/-- Whether a template is well-formed, and so are the descriptions of its slots, down to a depth below
which nothing may stand. -/
def isSound : (depth : Nat) → List Char → Bool
  | 0, _ => false
  | depth + 1, cs =>
    match ofTemplate? cs with
    | none => false
    | some parts => parts.all fun
      | .text _ => true
      | .slot s => isSound depth s.description

end Part

end Transplant.Log
