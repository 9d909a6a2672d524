import Transplant.Text.Digit

/-!
# Fitting values to a width

The short text that says how a value is shown: the fill character and alignment, the sign, the width,
the marks between groups of digits, the precision and the kind. A text is cut to the precision and stands on
the left unless it says otherwise; a number stands on the right, and zeros that fill its width are grouped
like its digits.
-/

namespace Transplant.Text

/-- Where a value stands in its width. -/
inductive Align where
  | left
  | right
  | centre
  | behindSign
deriving DecidableEq, Repr

/-- How a value is shown. `zero` asks for leading zeros; `coerced` is a mark for fractions only. -/
structure Fit where
  fill : Option Char := none
  align : Option Align := none
  sign : Option Char := none
  coerced : Bool := false
  alternate : Bool := false
  zero : Bool := false
  width : Nat := 0
  separator : Option Char := none
  precision : Option Nat := none
  kind : Option Char := none
deriving DecidableEq, Repr, Inhabited

namespace Fit

/-! ## Descriptions -/

/-- The alignment that a character stands for. -/
def align? (c : Char) : Option Align :=
  match c with
  | '<' => some .left
  | '>' => some .right
  | '^' => some .centre
  | '=' => some .behindSign
  | _ => none

/-- A description without a leading mark, and whether it was there. -/
def takeMark (mark : Char) (cs : List Char) : Bool × List Char :=
  if cs.head? == some mark then (true, cs.tail) else (false, cs)

/-- The number at the start of a description, if there is one. -/
def takeNumber (cs : List Char) : Option Nat × List Char :=
  let ds := cs.takeWhile isDigit
  (if ds.isEmpty then none else valueOf? ds, cs.drop ds.length)

/-- The fill character and the alignment at the start of a description. -/
def takeAlign (cs : List Char) : Option Char × Option Align × List Char :=
  match cs with
  | a :: b :: rest =>
    match align? b, align? a with
    | some align, _ => (some a, some align, rest)
    | none, some align => (none, some align, b :: rest)
    | none, none => (none, none, cs)
  | [a] =>
    match align? a with
    | some align => (none, some align, [])
    | none => (none, none, cs)
  | [] => (none, none, [])

/-- Whether the digits of numbers of a kind may be grouped by a mark. -/
def isGroupable (separator : Char) (kind : Option Char) : Bool :=
  match kind with
  | none => true
  | some k => "deEfFgG%".toList.contains k || (separator == '_' && "boxX".toList.contains k)

/-- Reads a description; its parts stand in a fixed order. -/
def parse? (cs : List Char) : Option Fit :=
  let (fill, align, cs) := takeAlign cs
  let (sign, cs) := match cs with
    | c :: rest => if c == '+' || c == '-' || c == ' ' then (some c, rest) else (none, cs)
    | [] => (none, cs)
  let (coerced, cs) := takeMark 'z' cs
  let (alternate, cs) := takeMark '#' cs
  let (zero, cs) := if fill.isNone then takeMark '0' cs else (false, cs)
  let (width, cs) := takeNumber cs
  let (separator, cs) := match cs with
    | c :: rest => if c == ',' || c == '_' then (some c, rest) else (none, cs)
    | [] => (none, cs)
  let (dot, cs) := takeMark '.' cs
  let (precision, cs) := if dot then takeNumber cs else (none, cs)
  if (dot && precision.isNone) || cs.length > 1 then none
  else if separator.any fun s => !isGroupable s cs.head? then none
  else some
    { fill, align, sign, coerced, alternate, zero, separator, precision
      width := width.getD 0
      kind := cs.head? }

/-! ## Placing -/

/-- A value of two parts, the sign with the marks of its base and the rest, in its width. -/
def pad (f : Fit) (usual : Align) (sign body : List Char) : List Char :=
  let fill := f.fill.getD (if f.zero then '0' else ' ')
  let n := f.width - (sign.length + body.length)
  match f.align.getD usual with
  | .left => sign ++ body ++ List.replicate n fill
  | .right => List.replicate n fill ++ sign ++ body
  | .centre => List.replicate (n / 2) fill ++ sign ++ body ++ List.replicate (n - n / 2) fill
  | .behindSign => sign ++ List.replicate n fill ++ body

/-- A text as described, unless the description is one for numbers. -/
def text? (f : Fit) (cs : List Char) : Option (List Char) :=
  let isForText := f.sign.isNone && !f.coerced && !f.alternate && f.separator.isNone &&
    f.align != some .behindSign && (f.kind.isNone || f.kind == some 's')
  if isForText then some (f.pad .left [] (cs.take (f.precision.getD cs.length))) else none

/-- Digits, the last one first, filled up with zeros to a width that counts the marks between groups. -/
def groupsFrom (size : Nat) (separator : Char) : (fuel : Nat) → (least : Nat) → List Char → List Char
  | 0, _, ds => ds
  | fuel + 1, least, ds =>
    let n := min size (max (max ds.length least) 1)
    let group := ds.take n ++ List.replicate (n - ds.length) '0'
    let rest := ds.drop n
    if rest.isEmpty && least ≤ n then group
    else group ++ separator :: groupsFrom size separator fuel (least - n - 1) rest

/-- Digits filled up with zeros to a width and grouped. -/
def groupDigits (separator : Option Char) (size least : Nat) (ds : List Char) : List Char :=
  match separator with
  | some mark => (groupsFrom size mark (ds.length + least + 1) least ds.reverse).reverse
  | none => List.replicate (least - ds.length) '0' ++ ds

/-- A number in its width: the sign with the marks of its base, digits that are grouped, and what follows
them. -/
def place (f : Fit) (size : Nat) (sign whole rest : List Char) : List Char :=
  let usual := if f.zero then .behindSign else .right
  let zeros := f.align.getD usual == .behindSign && f.fill.getD (if f.zero then '0' else ' ') == '0'
  let least := if zeros then f.width - (sign.length + rest.length) else 0
  f.pad usual sign (groupDigits f.separator size least whole ++ rest)

/-! ## Whole numbers -/

/-- The digits of a number in a base. -/
def digitsIn (base : Nat) (upper : Bool) : (fuel : Nat) → Nat → List Char
  | 0, _ => []
  | fuel + 1, n =>
    if n < base then [hexDigit upper n]
    else digitsIn base upper fuel (n / base) ++ [hexDigit upper (n % base)]

/-- The digits of a number of some kind, the marks of its base and the size of its groups. -/
def number? (kind : Char) (n : Nat) : Option (String × Nat × List Char) :=
  match kind with
  | 'd' | 'n' => some ("", 3, digits n)
  | 'b' => some ("0b", 4, digitsIn 2 false (n + 1) n)
  | 'o' => some ("0o", 4, digitsIn 8 false (n + 1) n)
  | 'x' => some ("0x", 4, digitsIn 16 false (n + 1) n)
  | 'X' => some ("0X", 4, digitsIn 16 true (n + 1) n)
  | _ => none

/-- The sign in front of a number that is not negative. -/
def plus (f : Fit) : List Char :=
  (f.sign.filter (· != '-')).toList

/-- A number as a whole number of its kind, or as the character with that number. -/
def whole? (f : Fit) (n : Nat) : Option (List Char) :=
  let kind := f.kind.getD 'd'
  if f.coerced || f.precision.isSome then none
  else if kind == 'c' then
    if f.sign.isSome || f.alternate || !decide n.isValidChar then none
    else some (f.pad (if f.zero then .behindSign else .right) [] [Char.ofNat n])
  else (number? kind n).map fun (mark, size, ds) =>
    f.place size (f.plus ++ (if f.alternate then mark.toList else [])) ds []

/-! ## Fractions -/

/-- A number divided by a power of ten, rounded, a tie to the even neighbour. -/
def shortened (n places : Nat) : Nat :=
  let unit := Nat.pow 10 places
  let q := n / unit
  let r := n % unit
  if 2 * r < unit then q
  else if 2 * r > unit then q + 1
  else if q % 2 == 0 then q else q + 1

/-- So many leading digits of a number, and the power of ten of the first one. -/
def leading (count n : Nat) : List Char × Nat :=
  let ds := digits n
  if ds.length ≤ count then (ds ++ List.replicate (count - ds.length) '0', ds.length - 1)
  else
    let kept := digits (shortened n (ds.length - count))
    (kept.take count, ds.length - 1 + (kept.length - count))

/-- Digits behind a point, or nothing where there are none and no point is asked for. -/
def behindPoint (alternate : Bool) (ds : List Char) : List Char :=
  if ds.isEmpty && !alternate then [] else '.' :: ds

/-- The power of ten behind the digits of a number. -/
def exponent (upper : Bool) (power : Nat) : List Char :=
  (if upper then 'E' else 'e') :: '+' :: (padded 2 power).toList

/-- Digits without the zeros at their end. -/
def dropZeros (ds : List Char) : List Char :=
  (ds.reverse.dropWhile (· == '0')).reverse

/-- The digits of a number before its point, and what follows them, for a number that is shown as a
fraction. -/
def fraction? (f : Fit) (n : Nat) : Option (List Char × List Char) :=
  let precision := f.precision.getD 6
  let upper := f.kind == some 'E' || f.kind == some 'G'
  let zeros := behindPoint f.alternate (List.replicate precision '0')
  match f.kind with
  | some 'f' | some 'F' => some (digits n, zeros)
  | some '%' => some (digits (100 * n), zeros ++ ['%'])
  | some 'e' | some 'E' =>
    let (ds, power) := leading (precision + 1) n
    some (ds.take 1, behindPoint f.alternate (ds.drop 1) ++ exponent upper power)
  | some 'g' | some 'G' =>
    let count := max precision 1
    let (ds, power) := leading count n
    let tidy (ds : List Char) := behindPoint f.alternate (if f.alternate then ds else dropZeros ds)
    if power < count then some (ds.take (power + 1), tidy (ds.drop (power + 1)))
    else some (ds.take 1, tidy (ds.drop 1) ++ exponent upper power)
  | _ => none

/-- A number as described, unless the description is none for numbers. Below `2 ^ 53` no digit is lost in a
fraction. -/
def nat? (f : Fit) (n : Nat) : Option (List Char) :=
  match f.fraction? n with
  | some (whole, rest) => some (f.place 3 f.plus whole rest)
  | none => f.whole? n

end Fit

end Transplant.Text
