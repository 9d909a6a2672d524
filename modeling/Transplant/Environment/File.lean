import Transplant.Environment.Basic
import Transplant.Text.Blank
import Transplant.Text.Lower
import Transplant.Text.Stream

/-!
# Environment files

Files of lines `NAME=value`, with optional `export`, quotes, escapes and comments. A line that is
none of this is passed over. Values refer to other variables as a name between `$` and braces, with an
optional default after `:-`.
-/

namespace Transplant.Environment.File

/-- Whether a character is a blank inside a line. -/
def isGap (c : Char) : Bool :=
  Text.isBlank c && c != '\n' && c != '\r'

/-- Whether a character is inside a line. -/
def isInline (c : Char) : Bool :=
  c != '\n' && c != '\r'

/-! ## Bindings -/

/-- The rest after an optional `export` and the blanks behind it. -/
def skipExport (cs : List Char) : List Char :=
  if "export".toList.isPrefixOf cs then
    let rest := cs.drop 6
    match rest with
    | c :: _ => if isGap c then rest.dropWhile isGap else cs
    | [] => cs
  else cs

/-- The name of a variable and the rest; a comment has no name. Without either the line is bad. -/
def readName (cs : List Char) : Option (Option (List Char) × List Char) :=
  match cs with
  | '#' :: _ => some (none, cs)
  | '\'' :: rest =>
    let name := rest.takeWhile (· != '\'')
    match rest.drop name.length with
    | _ :: rest => if name.isEmpty then none else some (some name, rest)
    | [] => none
  | cs =>
    let name := cs.takeWhile fun c => c != '=' && c != '#' && !Text.isBlank c
    if name.isEmpty then none else some (some name, cs.drop name.length)

/-- The text up to a closing quote and the rest after it. A backslash goes with the character behind it,
which is in the same line. -/
def readQuoted (quote : Char) : List Char → Option (List Char × List Char)
  | [] => none
  | ['\\'] => none
  | '\\' :: c :: rest =>
    if c == '\n' then none else (readQuoted quote rest).map fun (value, rest) => ('\\' :: c :: value, rest)
  | c :: rest =>
    if c == quote then some ([], rest) else (readQuoted quote rest).map fun (value, rest) => (c :: value, rest)

/-- The character that an escape stands for between double quotes. -/
def escaped? (c : Char) : Option Char :=
  match c with
  | '\\' => some '\\'
  | '\'' => some '\''
  | '"' => some '"'
  | 'a' => some '\x07'
  | 'b' => some '\x08'
  | 'f' => some '\x0c'
  | 'n' => some '\n'
  | 'r' => some '\r'
  | 't' => some '\t'
  | 'v' => some '\x0b'
  | _ => none

/-- A text with its escapes replaced; between single quotes only the backslash and the quote are
escaped. -/
def unescape (single : Bool) : List Char → List Char
  | '\\' :: c :: cs =>
    match if single && c != '\\' && c != '\'' then none else escaped? c with
    | some e => e :: unescape single cs
    | none => '\\' :: unescape single (c :: cs)
  | c :: cs => c :: unescape single cs
  | [] => []
termination_by cs => cs.length

/-- A value without quotes ends before a `#` that follows a blank. -/
def cutComment (before : Char) : List Char → List Char
  | [] => []
  | c :: cs => if c == '#' && Text.isBlank before then [] else c :: cutComment c cs

/-- The value behind an equals sign and the rest; an open quote makes the line bad. -/
def readValue (cs : List Char) : Option (List Char × List Char) :=
  match cs.dropWhile isGap with
  | '\'' :: rest => (readQuoted '\'' rest).map fun (v, rest) => (unescape true v, rest)
  | '"' :: rest => (readQuoted '"' rest).map fun (v, rest) => (unescape false v, rest)
  | _ =>
    some (Text.trimBy Text.isBlank (cutComment '=' (cs.takeWhile isInline)), cs.dropWhile isInline)

/-- The rest after an optional comment and the end of the line, unless something else follows. -/
def endLine (cs : List Char) : Option (List Char) :=
  let afterGap := cs.dropWhile isGap
  let cs := match afterGap with
    | '#' :: rest => rest.dropWhile isInline
    | _ => afterGap
  match cs with
  | [] => some []
  | c :: rest => if isInline c then none else some rest

/-- What one line binds, and the rest. A bad line binds nothing and ends at the next line end. -/
def readBinding (cs : List Char) : Option (List Char × Option (List Char)) × List Char :=
  let bad (cs : List Char) : Option (List Char × Option (List Char)) × List Char :=
    (none, (cs.dropWhile isInline).drop 1)
  match cs.dropWhile Text.isBlank with
  | [] => (none, [])
  | cs =>
    let cs := skipExport cs
    match readName cs with
    | none => bad cs
    | some (name, rest) =>
      let rest := rest.dropWhile isGap
      let (value, rest) : Option (Option (List Char)) × List Char := match rest with
        | '=' :: rest =>
          match readValue rest with
          | some (v, rest) => (some (some v), rest)
          | none => (none, rest)
        | rest => (some none, rest)
      match value with
      | none => bad rest
      | some value =>
        match endLine rest with
        | none => bad rest
        | some rest => (name.map fun n => (n, value), rest)

/-- The bindings of some lines, at most as many as the fuel says. -/
def readBindings : (fuel : Nat) → List Char → List (List Char × Option (List Char))
  | 0, _ => []
  | fuel + 1, cs =>
    if cs.isEmpty then []
    else
      let (binding, rest) := readBinding cs
      binding.toList ++ readBindings fuel rest

/-! ## References -/

/-- A reference right behind a `$`: the name, the default and the rest. -/
def readReference (cs : List Char) : Option (List Char × List Char × List Char) :=
  match cs with
  | '\x7b' :: cs =>
    let name := cs.takeWhile fun c => c != '\x7d' && c != ':'
    match cs.drop name.length with
    | '\x7d' :: rest => some (name, [], rest)
    | ':' :: '-' :: rest =>
      let default := rest.takeWhile (· != '\x7d')
      match rest.drop default.length with
      | _ :: rest => some (name, default, rest)
      | [] => none
    | _ => none
  | _ => none

/-- A text with its references replaced by the values of the variables. -/
def substitute (get : String → Option String) : (fuel : Nat) → List Char → List Char
  | 0, cs => cs
  | fuel + 1, cs =>
    match cs with
    | [] => []
    | '$' :: rest =>
      match readReference rest with
      | some (name, default, rest) =>
        ((get (String.ofList name)).map String.toList).getD default ++ substitute get fuel rest
      | none => '$' :: substitute get fuel rest
    | c :: rest => c :: substitute get fuel rest

/-- The value that a reference to a variable has: that of the environment, or else the one defined
before, where a name without a value counts as empty. -/
def resolve? (env : Environment) (defined : List (String × Option String)) (name : String) :
    Option String :=
  (env.get? name).or ((defined.find? fun v => v.1 == name).map fun v => v.2.getD "")

/-- Defines one more variable; a later definition takes the place of an earlier one of the name. -/
def defineOne (env : Environment) (defined : List (String × Option String))
    (binding : List Char × Option (List Char)) : List (String × Option String) :=
  let name := String.ofList binding.1
  let value := binding.2.map fun v => String.ofList (substitute (resolve? env defined) v.length v)
  if defined.any (·.1 == name) then defined.map fun v => if v.1 == name then (name, value) else v
  else defined ++ [(name, value)]

/-- The variables that bindings define on top of an environment; a name without a value defines
none. -/
def define (env : Environment) (bindings : List (List Char × Option (List Char))) : Environment :=
  (bindings.foldl (defineOne env) []).filterMap fun (name, value) => value.map (name, ·)

/-- Whether an environment asks to leave the file aside. -/
def isDisabled (env : Environment) : Bool :=
  match env.get? "PYTHON_DOTENV_DISABLED" with
  | some s => ["1", "true", "t", "yes", "y"].contains (Text.caseless s)
  | none => false

/-- A text without the mark of its encoding in front. -/
def dropMark : List Char → List Char
  | '\ufeff' :: cs => cs
  | cs => cs

/-- An environment completed by the variables of a file. -/
def load (env : Environment) (contents : String) : Except Fault Environment :=
  if isDisabled env then .ok env
  else
    let cs := Text.normalizeLineEnds (dropMark contents.toList)
    env.extend (define env (readBindings cs.length cs))

end Transplant.Environment.File
