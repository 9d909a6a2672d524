import Transplant.Text.Digit

/-!
# Binary floating-point numbers

Sixty-four-bit floating-point numbers as exact values `mantissa · 2 ^ exponent`, for settings that
are written with a fraction or an exponent. A decimal is read to the nearest number, ties to
the even mantissa, and a number is written with the fewest digits that read back.
-/

namespace Transplant

/-- A floating-point number; a finite one has a mantissa below `2 ^ 53` and an exponent from -1074 on. -/
inductive Binary64 where
  | finite (negative : Bool) (mantissa : Nat) (exponent : Int)
  | infinite (negative : Bool)
  | nan
deriving DecidableEq, Repr, Inhabited

namespace Binary64

/-- The quotient rounded to a whole number, a tie to the even neighbour. -/
def roundHalfEven (num den : Nat) : Nat :=
  let q := num / den
  let r := num % den
  if 2 * r < den then q
  else if 2 * r > den then q + 1
  else if q % 2 == 0 then q else q + 1

/-- A quotient `num / den` scaled by a power of two, as a numerator and a denominator. -/
def scale (num den : Nat) (e : Int) : Nat × Nat :=
  if 0 ≤ e then (num * Nat.pow 2 e.toNat, den) else (num, den * Nat.pow 2 (-e).toNat)

/-- The number nearest to a quotient. -/
def ofRatio (negative : Bool) (num den : Nat) : Binary64 :=
  if num == 0 then .finite negative 0 0
  else
    let guess : Int := (num.log2 : Int) - den.log2 - 52
    let fit (q : Int) : Nat × Nat := scale num den (-q)
    let (n, d) := fit guess
    let q := if n / d < Nat.pow 2 52 then guess - 1 else guess
    let q := max q (-1074)
    let (n, d) := fit q
    let m := roundHalfEven n d
    let (m, q) := if m == Nat.pow 2 53 then (Nat.pow 2 52, q + 1) else (m, q)
    if q > 971 then .infinite negative else .finite negative m q

/-- The number nearest to `digits · 10 ^ exponent`. -/
def ofDecimal (negative : Bool) (digits : Nat) (exponent : Int) : Binary64 :=
  if digits == 0 then .finite negative 0 0
  else
    let size : Int := (Text.digits digits).length + exponent
    if size > 400 then .infinite negative
    else if size < -400 then .finite negative 0 0
    else if 0 ≤ exponent then ofRatio negative (digits * Nat.pow 10 exponent.toNat) 1
    else ofRatio negative digits (Nat.pow 10 (-exponent).toNat)

/-- The value as a fraction of whole numbers, when finite. -/
def ratio? : Binary64 → Option (Int × Nat)
  | .finite s m e =>
    let (n, d) := scale m 1 e
    some (if s then -(n : Int) else n, d)
  | _ => none

/-- The greatest whole number that is not above the value, and what the value is above it. -/
def floor? (x : Binary64) : Option (Int × Nat × Nat) :=
  x.ratio?.map fun (n, d) => (Int.fdiv n d, (Int.fmod n d).toNat, d)

/-- The value when it is a whole number. -/
def toInt? (x : Binary64) : Option Int :=
  match x.floor? with
  | some (n, 0, _) => some n
  | _ => none

/-- Whether the value is neither infinite nor undefined. -/
def isFinite : Binary64 → Bool
  | .finite .. => true
  | _ => false

/-- Equality of values: the two zeros are equal, and an undefined value equals nothing. -/
def same (x y : Binary64) : Bool :=
  match x, y with
  | .nan, _ | _, .nan => false
  | .infinite s, .infinite t => s == t
  | x, y =>
    match x.ratio?, y.ratio? with
    | some (n, d), some (k, l) => n * l == k * d
    | _, _ => false

/-- Whether the value is a zero. -/
def isZero : Binary64 → Bool
  | .finite _ m _ => m == 0
  | _ => false

/-! ## Shortest text -/

/-- Whether a fraction lies in the interval of the values that read as `m · 2 ^ e`. -/
def readsAs (m : Nat) (e : Int) (num den : Nat) : Bool :=
  let lowerGap := if m == Nat.pow 2 52 && e > -1074 then 1 else 2
  let (lo, ld) := scale (4 * m - lowerGap) 1 (e - 2)
  let (hi, hd) := scale (4 * m + 2) 1 (e - 2)
  if m % 2 == 0 then lo * den ≤ num * ld && num * hd ≤ hi * den
  else lo * den < num * ld && num * hd < hi * den

/-- The number of decimal places before the point of `num / den`, which is positive. -/
def decimalSize (num den : Nat) : Int :=
  if den ≤ num then (Text.digits (num / den)).length
  else
    let zeros := ((List.range 400).find? fun k => den ≤ num * Nat.pow 10 (k + 1)).getD 400
    Int.negOfNat zeros

/-- The shortest digits of a positive value with `k` to `k + fuel` digits, and the power of ten
of the last one. -/
def shortestFrom (m : Nat) (e : Int) (k : Nat) : (fuel : Nat) → Nat × Int
  | 0 => (0, 0)
  | fuel + 1 =>
    let (n, d) := scale m 1 e
    let power := decimalSize n d - k
    let (n', d') := if 0 ≤ power then (n, d * Nat.pow 10 power.toNat) else (n * Nat.pow 10 (-power).toNat, d)
    let low := n' / d'
    let fits (c : Nat) : Bool :=
      if 0 ≤ power then readsAs m e (c * Nat.pow 10 power.toNat) 1 else readsAs m e c (Nat.pow 10 (-power).toNat)
    let nearer := if 2 * (n' % d') < d' then low else if 2 * (n' % d') > d' then low + 1
      else if low % 2 == 0 then low else low + 1
    let other := if nearer == low then low + 1 else low
    if fits nearer then (nearer, power)
    else if fits other then (other, power)
    else shortestFrom m e (k + 1) fuel

/-- The shortest digits of a positive value, without trailing zeros, and the power of ten of the
last one. -/
def shortest (m : Nat) (e : Int) : List Char × Int :=
  let (n, power) := shortestFrom m e 1 17
  let ds := Text.digits n
  let zeros := (ds.reverse.takeWhile (· == '0')).length
  (ds.take (ds.length - zeros), power + zeros)

/-- The text of a value: positional from `0.0001` up to sixteen places, else with an exponent. -/
def text : Binary64 → String
  | .nan => "nan"
  | .infinite s => if s then "-inf" else "inf"
  | .finite s m e =>
    let sign := if s then "-" else ""
    if m == 0 then sign ++ "0.0"
    else
      let (ds, power) := shortest m e
      let point : Int := ds.length + power
      let body :=
        if -4 < point && point ≤ 16 then
          if point ≤ 0 then "0." ++ String.ofList (List.replicate (-point).toNat '0' ++ ds)
          else if ds.length ≤ point.toNat then
            String.ofList (ds ++ List.replicate (point.toNat - ds.length) '0') ++ ".0"
          else String.ofList (ds.take point.toNat ++ '.' :: ds.drop point.toNat)
        else
          let lead := match ds with
            | [d] => [d]
            | d :: rest => d :: '.' :: rest
            | [] => []
          let exp := point - 1
          String.ofList lead ++ "e" ++ (if exp < 0 then "-" else "+") ++ Text.padded 2 exp.natAbs
      sign ++ body

end Binary64

end Transplant
