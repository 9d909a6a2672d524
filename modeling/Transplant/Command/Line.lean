import Transplant.Command.Signature

/-!
# Command lines

The words of a command line, taken apart into switches with their values and other words. A switch is
called by its long name, with its value behind `=` or in the next word, or by its letter, with its value right
behind it or in the next word; letters may be run together. Words behind `--` are not switches, nor
are those behind the first other word in the line of a group.
-/

namespace Transplant.Command

/-- Why a command line is refused. -/
inductive Misuse where
  | unknownSwitch (given : String) (similar : List String)
  | missingValue (switch : String)
  | needlessValue (switch : String)
  | missingArgument (name : String)
  | extraWords (words : List String)
  | missingCommand
  | unknownCommand (word : String) (similar : List String)
  | badValue (place : String) (why : String)
deriving DecidableEq, Repr

/-- A switch that was given, with its value. -/
structure Given where
  switch : Switch
  value : Option String
deriving DecidableEq, Repr

/-- A command line taken apart. -/
structure Line where
  given : List Given := []
  words : List String := []
deriving DecidableEq, Repr

namespace Line

/-- A line with some switches before it. -/
def following (given : List Given) (l : Line) : Line :=
  { l with given := given ++ l.given }

/-! ## Switches -/

/-- The switches that one word gives; the last one may be waiting for a value, under the name by
which it was called. -/
structure Called where
  given : List Given := []
  waiting : Option (Switch × String) := none

/-- The switches called by a run of letters. -/
def readLetters (s : Signature) : List Char → Except Misuse Called
  | [] => .ok {}
  | c :: rest => do
    let name := String.ofList ['-', c]
    match s.letter? c with
    | none => throw (.unknownSwitch name [])
    | some switch =>
      if switch.shape?.isSome then
        if rest.isEmpty then return { waiting := some (switch, name) }
        else return { given := [⟨switch, some (String.ofList rest)⟩] }
      else
        let more ← readLetters s rest
        return { more with given := ⟨switch, none⟩ :: more.given }

/-- The name in a word and the value behind its equals sign. -/
def splitValue (word : List Char) : String × Option String :=
  let name := word.takeWhile (· != '=')
  (String.ofList name,
    if name.length < word.length then some (String.ofList (word.drop (name.length + 1))) else none)

/-- The switches called by a word. -/
def readSwitch (s : Signature) (word : List Char) : Except Misuse Called :=
  let (name, value) := splitValue word
  match s.long? name with
  | some switch =>
    match switch.shape?.isSome, value with
    | true, some value => .ok { given := [⟨switch, some value⟩] }
    | true, none => .ok { waiting := some (switch, name) }
    | false, some _ => .error (.needlessValue name)
    | false, none => .ok { given := [⟨switch, none⟩] }
  | none =>
    match word with
    | '-' :: '-' :: _ => .error (.unknownSwitch name (Text.similarTo name (s.switches.map (·.long))))
    | _ => readLetters s word.tail

/-- Whether a word calls switches. -/
def isSwitch (word : String) : Bool :=
  word.startsWith "-" && word != "-"

/-! ## Words -/

/-- Takes a command line apart. -/
def read (s : Signature) : List String → Except Misuse Line
  | [] => .ok {}
  | word :: rest =>
    if word == "--" then .ok { words := rest }
    else if isSwitch word then do
      let called ← readSwitch s word.toList
      match called.waiting with
      | none => return (← read s rest).following called.given
      | some (switch, name) =>
        match rest with
        | value :: rest => return (← read s rest).following (called.given ++ [⟨switch, some value⟩])
        | [] => throw (.missingValue name)
    else if s.isGroup then .ok { words := word :: rest }
    else do
      let line ← read s rest
      return { line with words := word :: line.words }

/-! ## What was given -/

/-- Whether a switch was given. -/
def has (l : Line) (long : String) : Bool :=
  l.given.any fun g => g.switch.long == long

/-- The values given for a switch. -/
def values (l : Line) (long : String) : List String :=
  (l.given.filter fun g => g.switch.long == long).filterMap (·.value)

/-- The value that counts for a switch: the last one. -/
def value? (l : Line) (long : String) : Option String :=
  (l.values long).getLast?

end Line

end Transplant.Command
