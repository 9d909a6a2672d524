import Transplant.Text.Blank
import Transplant.Text.Quoted
import Transplant.Text.Split

/-!
# Numerals

Whole numbers written in a base: an optional sign, digits of any script and letters with single
underscores between them, and blanks around. The mark of a base may stand in front of the digits. A
decimal numeral has at most 4300 digits, both one that is read and one that is written.
-/

namespace Transplant.Numeral

/-- Why a text is no numeral, or a number has none. -/
inductive Fault where
  | malformed (base : Nat) (text : String)
  | tooLong (digits : Nat)
  | tooLarge
deriving DecidableEq, Repr

/-- The number of characters that a message shows of a quoted text. -/
def maxShown : Nat := 200

/-- The words for a fault. -/
def Fault.message : Fault → String
  | .malformed base s =>
    "invalid literal for int() with base " ++ Text.decimal base ++ ": " ++
      String.ofList ((Text.quoted s).toList.take maxShown)
  | .tooLong n =>
    "Exceeds the limit (4300 digits) for integer string conversion: value has " ++ Text.decimal n ++
      " digits; use sys.set_int_max_str_digits() to increase the limit"
  | .tooLarge =>
    "Exceeds the limit (4300 digits) for integer string conversion; use sys.set_int_max_str_digits() to " ++
      "increase the limit"

/-- The greatest number of digits of a decimal numeral. -/
def maxDigits : Nat := 4300

/-! ## Digits -/

/-- The value of a letter as a digit. -/
def letterValue? (c : Char) : Option Nat :=
  if 'a' ≤ c && c ≤ 'z' then some (c.toNat - 87)
  else if 'A' ≤ c && c ≤ 'Z' then some (c.toNat - 55)
  else none

/-- The value of a digit in a base. -/
def digitValue? (base : Nat) (c : Char) : Option Nat :=
  ((Text.digitValue? c).or (letterValue? c)).filter (· < base)

/-- The value of some digits in a base. -/
def valueIn (base : Nat) (cs : List Char) : Nat :=
  cs.foldl (fun n c => base * n + (digitValue? base c).getD 0) 0

/-- Whether the number of digits is limited in a base. -/
def isLimited (base : Nat) : Bool := base == 10

/-- The value of the digits of a decimal numeral. -/
def ofDigits (cs : List Char) : Except Fault Nat :=
  if cs.length > maxDigits then .error (.tooLong cs.length) else .ok (valueIn 10 cs)

/-! ## Reading -/

/-- Whether a numeral is negative, and what follows its sign. -/
def splitSign : List Char → Bool × List Char
  | '-' :: cs => (true, cs)
  | '+' :: cs => (false, cs)
  | cs => (false, cs)

/-- The letters that mark a base behind a zero. -/
def baseMarks : List (Nat × List Char) :=
  [(2, ['b', 'B']), (8, ['o', 'O']), (16, ['x', 'X'])]

/-- The digits behind the mark of the base, if it is there; one underscore may follow it. -/
def dropMark (base : Nat) (cs : List Char) : List Char :=
  match cs with
  | zero :: mark :: rest =>
    if Text.digitValue? zero == some 0 && baseMarks.any fun (b, marks) => b == base && marks.contains mark then
      match rest with
      | '_' :: ds => ds
      | ds => ds
    else cs
  | _ => cs

/-- The whole number that a text denotes in a base. Too many digits are told before anything else that is
wrong behind them. -/
def parseIn (base : Nat) (s : String) : Except Fault Int :=
  let (negative, marked) := splitSign (s.toList.dropWhile Text.isWhiteSpace)
  let body := dropMark base marked
  let run := body.takeWhile fun c => c == '_' || (digitValue? base c).isSome
  let groups := Text.splitOn '_' run
  let ds := groups.flatten
  if groups.any List.isEmpty then .error (.malformed base s)
  else if isLimited base && ds.length > maxDigits then .error (.tooLong ds.length)
  else if !(body.drop run.length).all Text.isWhiteSpace then .error (.malformed base s)
  else
    let n := valueIn base ds
    .ok (if negative then -(n : Int) else n)

/-- The whole number that a text denotes in base ten. -/
def parse (s : String) : Except Fault Int :=
  parseIn 10 s

/-! ## Writing -/

/-- The decimal numeral of a whole number, unless it has too many digits. -/
def write (n : Int) : Except Fault String :=
  if (Text.digits n.natAbs).length > maxDigits then .error .tooLarge else .ok (Text.signed n)

end Transplant.Numeral
