import Transplant.Number.Binary64
import Transplant.Text.Blank
import Transplant.Text.Lower
import Transplant.Text.Split

/-!
# Floating-point numbers in text

A number is written with digits, a point among them and an exponent; two words stand for the infinite
and the undefined value. Sums and products are rounded to the nearest number.
-/

namespace Transplant.Binary64

/-- The digits of a decimal as one number and the power of ten of the last one: digits with an optional
point among them, then perhaps an exponent. -/
def decimal? (cs : List Char) : Option (Nat × Int) := do
  let mantissa := cs.takeWhile fun c => c != 'e' && c != 'E'
  let whole := mantissa.takeWhile (· != '.')
  let fraction := (mantissa.drop whole.length).drop 1
  let exponent : Int ← match cs.drop mantissa.length with
    | [] => some 0
    | _ :: '-' :: ds => (Text.asciiNumber? ds).map fun n => -(n : Int)
    | _ :: '+' :: ds => (Text.asciiNumber? ds).map Int.ofNat
    | _ :: ds => (Text.asciiNumber? ds).map Int.ofNat
  let digits ← Text.asciiNumber? (whole ++ fraction)
  return (digits, exponent - fraction.length)

/-- The number nearest to a decimal with an optional sign. -/
def ofDecimal? (cs : List Char) : Option Binary64 :=
  let (negative, body) := match cs with
    | '-' :: ds => (true, ds)
    | '+' :: ds => (false, ds)
    | ds => (false, ds)
  (decimal? body).map fun (digits, exponent) => ofDecimal negative digits exponent

/-- The ASCII digit of the value of a digit of any script; other characters stay. -/
def plainDigit (c : Char) : Char :=
  ((Text.digitValue? c).map Text.asciiDigit).getD c

/-- The number that a text denotes: a decimal in the digits of any script, or a word for an infinite or
undefined value in any case, with blanks around. -/
def parse? (s : String) : Option Binary64 :=
  let cs := Text.trimBy Text.isWhiteSpace s.toList
  let (negative, body) := match cs with
    | '-' :: ds => (true, ds)
    | '+' :: ds => (false, ds)
    | ds => (false, ds)
  let word := Text.asciiLower (String.ofList body)
  if word == "inf" || word == "infinity" then some (.infinite negative)
  else if word == "nan" then some .nan
  else (decimal? (body.map plainDigit)).map fun (digits, exponent) => ofDecimal negative digits exponent

/-! ## Arithmetic -/

/-- Whether the sign of a value is minus. -/
def isNegative : Binary64 → Bool
  | .finite s _ _ | .infinite s => s
  | .nan => false

/-- The value with the other sign. -/
def negate : Binary64 → Binary64
  | .finite s m e => .finite (!s) m e
  | .infinite s => .infinite (!s)
  | .nan => .nan

/-- The number nearest to a whole number. -/
def ofInt (n : Int) : Binary64 :=
  ofRatio (n < 0) n.natAbs 1

/-- The sum, rounded. -/
def add (x y : Binary64) : Binary64 :=
  match x, y with
  | .nan, _ | _, .nan => .nan
  | .infinite s, .infinite t => if s == t then x else .nan
  | .infinite _, _ => x
  | _, .infinite _ => y
  | .finite s _ _, .finite t _ _ =>
    match x.ratio?, y.ratio? with
    | some (n, d), some (k, l) =>
      let sum := n * l + k * d
      if sum == 0 then .finite (s && t) 0 0 else ofRatio (sum < 0) sum.natAbs (d * l)
    | _, _ => .nan

/-- The product, rounded. -/
def mul (x y : Binary64) : Binary64 :=
  let sign := x.isNegative != y.isNegative
  match x, y with
  | .nan, _ | _, .nan => .nan
  | .infinite _, z | z, .infinite _ => if z.isZero then .nan else .infinite sign
  | .finite .., .finite .. =>
    match x.ratio?, y.ratio? with
    | some (n, d), some (k, l) => ofRatio sign (n * k).natAbs (d * l)
    | _, _ => .nan

end Transplant.Binary64
