import Transplant.Schema.Problem

/-!
# Checking supplied data

Readers of fields that gather every problem instead of stopping at the first one. A field that is
not supplied takes its default, which is not checked; some scalars are read from others, such as
a whole number from its digits.
-/

namespace Transplant.Schema

/-- The outcome of a check: a value, or the problems in the order of the fields. -/
abbrev Checked (α : Type) := Except (List Problem) α

namespace Checked

/-- A problem at the place of the value itself. -/
def fail {α : Type} (fault : Fault) (input : Data) : Checked α :=
  .error [⟨[], fault, input⟩]

/-- Applies a checked function to a checked value and gathers the problems of both. -/
def seq {α β : Type} (f : Checked (α → β)) (x : Checked α) : Checked β :=
  match f, x with
  | .ok f, .ok a => .ok (f a)
  | .error p, .ok _ => .error p
  | .ok _, .error q => .error q
  | .error p, .error q => .error (p ++ q)

/-- Builds a value from two checked ones. -/
def map2 {α β γ : Type} (f : α → β → γ) (a : Checked α) (b : Checked β) : Checked γ :=
  seq (a.map f) b

/-- Builds a value from three checked ones. -/
def map3 {α β γ δ : Type} (f : α → β → γ → δ) (a : Checked α) (b : Checked β) (c : Checked γ) :
    Checked δ :=
  seq (map2 f a b) c

/-- Builds a value from four checked ones. -/
def map4 {α β γ δ ε : Type} (f : α → β → γ → δ → ε) (a : Checked α) (b : Checked β)
    (c : Checked γ) (d : Checked δ) : Checked ε :=
  seq (map3 f a b c) d

/-- Builds a value from five checked ones. -/
def map5 {α β γ δ ε ζ : Type} (f : α → β → γ → δ → ε → ζ) (a : Checked α) (b : Checked β)
    (c : Checked γ) (d : Checked δ) (e : Checked ε) : Checked ζ :=
  seq (map4 f a b c d) e

/-- A check seen from one step further out. -/
def under {α : Type} (step : Step) (x : Checked α) : Checked α :=
  x.mapError (·.map (·.under step))

/-- A value that passes, or is refused. -/
def orRefuse {α : Type} (input : Data) (why : Refusal) : Option α → Checked α
  | some a => .ok a
  | none => fail (.refused why) input

end Checked

/-- Checks each item of a sequence from an index on. -/
def checkItems {α : Type} (read : Data → Checked α) : (index : Nat) → List Data → Checked (List α)
  | _, [] => .ok []
  | i, d :: ds =>
    Checked.map2 List.cons (Checked.under (.item i) (read d)) (checkItems read (i + 1) ds)

/-- Checks the field of a record, which may have a default. -/
def field {α : Type} (entries : List (Data × Data)) (name : String) (default : Option α)
    (read : Data → Checked α) : Checked α :=
  match Data.lookup entries name with
  | some d => Checked.under (.field name) (read d)
  | none =>
    match default with
    | some a => .ok a
    | none => Checked.under (.field name) (Checked.fail .missing (.map entries))

/-- Checks a record, which is supplied as a mapping. -/
def record {α : Type} (model : Model) (d : Data) (read : List (Data × Data) → Checked α) : Checked α :=
  match d.opened with
  | .map entries => read entries
  | _ => Checked.fail (.notRecord model) d

/-- The outcome of a check as the report on one record. -/
def report {α : Type} (model : Model) (x : Checked α) : Except Report α :=
  x.mapError (⟨model, ·⟩)

/-! ## Scalars -/

/-- A text; bytes count when they are UTF-8. -/
def readText (d : Data) : Checked String :=
  match d with
  | .text s => .ok s
  | .bytes bs =>
    match Text.decodeStrict bs with
    | .ok cs => .ok (String.ofList cs)
    | .error _ => Checked.fail .undecodable d
  | .halves _ => Checked.fail .undecodable d
  | d => Checked.fail .notText d

/-- A text or null. -/
def readText? (d : Data) : Checked (Option String) :=
  match d with
  | .null => .ok none
  | d => (readText d).map some

/-- The boolean that a word stands for, in any case. -/
def boolOfWord? (s : String) : Option Bool :=
  let w := Text.asciiLower s
  if ["1", "on", "t", "true", "y", "yes"].contains w then some true
  else if ["0", "off", "f", "false", "n", "no"].contains w then some false
  else none

/-- The bound of the whole numbers that fit a word of 64 bits with a sign. -/
def wordBound : Nat := 9223372036854775808

/-- A boolean, also from a word, from zero or from one. -/
def readBool (d : Data) : Checked Bool :=
  let ofWhole (n : Int) : Checked Bool :=
    if n == 0 then .ok false else if n == 1 then .ok true else Checked.fail .unreadableBool d
  let ofWord (s : String) : Checked Bool :=
    match boolOfWord? s with
    | some b => .ok b
    | none => Checked.fail .unreadableBool d
  match d with
  | .bool b => .ok b
  | .text s => ofWord s
  | .bytes bs =>
    match Text.decodeStrict bs with
    | .ok cs => ofWord (String.ofList cs)
    | .error _ => Checked.fail .unreadableBool d
  | .halves _ => Checked.fail .undecodable d
  | .int n => if n.natAbs < wordBound then ofWhole n else Checked.fail .notBool d
  | .real x =>
    match x.toInt? with
    | some n => if n.natAbs < wordBound then ofWhole n else Checked.fail .notBool d
    | none => Checked.fail .notBool d
  | d => Checked.fail .notBool d

/-! ## Whole numbers in text -/

/-- A number in its plain form: an optional minus and ASCII digits, of which the first is no zero unless it
is the only one. -/
def plainWhole? (cs : List Char) : Option Int :=
  let (negative, ds) := match cs with
    | '-' :: ds => (true, ds)
    | ds => (false, ds)
  if ds.head? == some '0' && ds.length > 1 then none
  else (Text.asciiNumber? ds).map fun n => if negative then -(n : Int) else n

/-- Whether a text starts as a plain number of more than 4300 characters. -/
def isTooLong (cs : List Char) : Bool :=
  let (sign, ds) := match cs with
    | '-' :: ds => (1, ds)
    | ds => (0, ds)
  let run := ds.takeWhile fun c => (Text.asciiDigitValue? c).isSome
  !run.isEmpty && run.head? != some '0' && sign + run.length > 4300

/-- A number behind its leading zeros, with which underscores may be mixed. What follows them may have a
sign of its own; a zero in front of a point stays. -/
def dropZeros (cs : List Char) : Option (List Char) :=
  let isFirst (c : Char) : Bool := ('1' ≤ c && c ≤ '9') || c == '-'
  match cs with
  | '0' :: rest =>
    let zeros := rest.takeWhile fun c => c == '0' || c == '_'
    let before := ('0' :: zeros).drop zeros.length
    match rest.drop zeros.length with
    | [] => some before
    | '.' :: rest => some (before ++ '.' :: rest)
    | c :: rest => if isFirst c then some (c :: rest) else none
  | c :: _ => if isFirst c then some cs else none
  | [] => none

/-- A number without the point and the zeros behind it. -/
def dropZeroFraction (cs : List Char) : List Char :=
  let whole := cs.takeWhile (· != '.')
  match cs.drop whole.length with
  | _ :: fraction => if !fraction.isEmpty && fraction.all (· == '0') then whole else cs
  | [] => cs

/-- A number without underscores, where they stand one by one inside it. -/
def dropUnderscores (cs : List Char) : List Char :=
  let groups := Text.splitOn '_' cs
  if groups.any List.isEmpty then cs else groups.flatten

/-- The plain form of a number with blanks around it, a sign, leading zeros, underscores between digits or a
fraction of zeros. -/
def tidyWhole (s : String) : Option (List Char) :=
  let tidy (cs : List Char) : Option (List Char) :=
    (dropZeros cs).map fun ds => dropUnderscores (dropZeroFraction ds)
  match Text.trimBy Text.isWhiteSpace s.toList with
  | '-' :: cs => (tidy cs).map ('-' :: ·)
  | '+' :: '-' :: _ => none
  | '+' :: cs => tidy cs
  | cs => tidy cs

/-- The whole number written in a text. -/
def wholeOfText? (s : String) : Option Int :=
  (plainWhole? s.toList).or (((tidyWhole s).filter fun cs => !isTooLong cs).bind plainWhole?)

/-- A whole number, also from its digits, from a boolean or from a number without a fraction. -/
def readInt (d : Data) : Checked Int :=
  let ofDigits (s : String) : Checked Int :=
    if isTooLong s.toList then Checked.fail .tooLarge d
    else match wholeOfText? s with
      | some n => .ok n
      | none => Checked.fail .unreadableInt d
  match d with
  | .int n => .ok n
  | .bool b => .ok (if b then 1 else 0)
  | .text s => ofDigits s
  | .bytes bs =>
    match Text.decodeStrict bs with
    | .ok cs => ofDigits (String.ofList cs)
    | .error _ => Checked.fail .unreadableInt d
  | .halves _ => Checked.fail .undecodable d
  | .real x =>
    if !x.isFinite then Checked.fail .notFinite d
    else match x.toInt? with
      | none => Checked.fail .fractional d
      | some n => if n.natAbs < wordBound then .ok n else Checked.fail .tooLarge d
  | d => Checked.fail .notInt d

/-! ## Collections -/

/-- A list of texts; a set or a pair also counts as a list. -/
def readTexts (d : Data) : Checked (List String) :=
  match d.opened with
  | .list xs => checkItems readText 0 xs
  | .set xs => checkItems readText 0 xs
  | .pair x y => checkItems readText 0 [x, y]
  | _ => Checked.fail .notList d

/-- The step to the value under a key. -/
def keyStep : Data → Step
  | .text s => .field s
  | .int n => if n < 0 || !(Data.int n).isWritable then .field (Data.int n).quoted else .item n.toNat
  | k => .field k.quoted

/-- Checks the entries of a mapping from texts to texts. -/
def checkEntries : List (Data × Data) → Checked (List (String × String))
  | [] => .ok []
  | (k, v) :: rest =>
    Checked.map3 (fun key value entries => (key, value) :: entries)
      (Checked.under (keyStep k) (Checked.under (.field "[key]") (readText k)))
      (Checked.under (keyStep k) (readText v))
      (checkEntries rest)

/-- A mapping from texts to texts. -/
def readTextMap (d : Data) : Checked (List (String × String)) :=
  match d.opened with
  | .map es => checkEntries es
  | _ => Checked.fail .notMapping d

/-- A point in time that was counted, in a year that can be told. -/
def counted (d : Data) (count : Except DateFault Timestamp) : Checked (Option Timestamp) :=
  match count.bind Timestamp.checkYear with
  | .ok t => .ok (some t)
  | .error why => Checked.fail (.timestamp why) d

/-- A point in time, from its text or from a count of seconds, or null. -/
def readTimestamp? (d : Data) : Checked (Option Timestamp) :=
  match d with
  | .null => .ok none
  | .timestamp t => .ok (some t)
  | .date day => .ok (some ⟨day, 0, 0, 0, 0, none⟩)
  | .text s =>
    match Timestamp.ofText s with
    | .ok t => .ok (some t)
    | .error (.date why) => Checked.fail (.date why) d
    | .error (.time why) => Checked.fail (.timestamp why) d
  | .halves _ => Checked.fail .undecodable d
  | .int n => counted d (Timestamp.ofCount n)
  | .real x => counted d (Timestamp.ofReal x)
  | d => Checked.fail .notTimestamp d

end Transplant.Schema
