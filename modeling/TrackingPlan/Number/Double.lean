/-!
# Doubles

The numbers of the 64 bit binary format, as exact values: a finite one is a natural mantissa
below 2^53 times a power of two. A decimal is read by rounding its exact value to the nearest
double, a tie going to the even mantissa.

Key definitions: `Double`, `Double.ofRatio`, `Double.ofScientific`, `Double.isBelow`.
-/

namespace TrackingPlan

/-- A double: `finite s m e` is `m * 2 ^ e`, negated when `s` is set. -/
inductive Double where
  | nan
  | infinity (negative : Bool)
  | finite (negative : Bool) (mantissa : Nat) (exponent : Int)
  deriving DecidableEq, Repr

namespace Double

/-- `n / d` rounded to the nearest natural number, a tie to the even one. -/
def roundQuotient (n d : Nat) : Nat :=
  let q := n / d
  let twice := 2 * (n % d)
  if twice < d then q
  else if d < twice then q + 1
  else if q % 2 = 0 then q else q + 1

/-- `n / d` times `2 ^ (-e)`, as a numerator and a denominator. -/
def unscale (n d : Nat) (e : Int) : Nat × Nat :=
  if 0 ≤ e then (n, d * Nat.pow 2 e.toNat) else (n * Nat.pow 2 (-e).toNat, d)

/-- The exponent of the doubles next to the positive `n / d`: 53 bits stand before the point,
or fewer where the exponent has reached its least value. -/
def exponentFor (n d : Nat) : Int :=
  let k : Int := (Nat.log2 n : Int) - (Nat.log2 d : Int)
  let (a, b) := unscale n d k
  max (if a < b then k - 53 else k - 52) (-1074)

/-- The double nearest to the quotient `n / d`. -/
def ofRatio (negative : Bool) (n d : Nat) : Double :=
  if n = 0 then finite negative 0 (-1074)
  else
    let e := exponentFor n d
    let (a, b) := unscale n d e
    let m := roundQuotient a b
    let (m, e) := if m = Nat.pow 2 53 then (Nat.pow 2 52, e + 1) else (m, e)
    if e > 971 then infinity negative else finite negative m e

/-- The number of decimal digits of a natural number. -/
def digitCount (n : Nat) : Nat := (Nat.toDigits 10 n).length

/-- The double nearest to `digits * 10 ^ e`; the two bounds keep the arithmetic small where the
answer is an infinity or a zero in any case. -/
def ofScientific (negative : Bool) (digits : Nat) (e : Int) : Double :=
  if digits = 0 then finite negative 0 (-1074)
  else
    let size := (digitCount digits : Int) + e
    if size > 400 then infinity negative
    else if size < -400 then finite negative 0 (-1074)
    else if 0 ≤ e then ofRatio negative (digits * Nat.pow 10 e.toNat) 1
    else ofRatio negative digits (Nat.pow 10 (-e).toNat)

/-- The double nearest to an integer. -/
def ofInt (n : Int) : Double := ofScientific (n < 0) n.natAbs 0

/-- The number with the other sign. -/
def negate : Double → Double
  | nan => nan
  | infinity negative => infinity !negative
  | finite negative m e => finite (!negative) m e

/-- Is the double at most zero? What is not a number is not. -/
def atMostZero : Double → Bool
  | nan => false
  | infinity negative => negative
  | finite negative mantissa _ => negative || mantissa == 0

/-- Are the two doubles the same number? What is not a number equals nothing, and the two zeros
are the same. -/
def sameNumber : Double → Double → Bool
  | nan, _ => false
  | _, nan => false
  | finite s m e, finite s' m' e' => (m == 0 && m' == 0) || (s == s' && m == m' && e == e')
  | x, y => decide (x = y)

/-- Is the double the integer `n`, exactly? -/
def isInt (n : Int) : Double → Bool
  | finite negative m e =>
    let (a, b) := unscale m 1 (-e)
    a == n.natAbs * b && (n == 0 || negative == decide (n < 0))
  | _ => false

/-- An integer as its own mantissa, without any rounding. -/
def exactly (n : Int) : Double := finite (decide (n < 0)) n.natAbs 0

/-- A mantissa with its sign, over the power of two with exponent `low`, which is not above its
own. -/
def signedAt (low : Int) (negative : Bool) (m : Nat) (e : Int) : Int :=
  let scaled : Int := ((m * Nat.pow 2 (e - low).toNat : Nat) : Int)
  if negative then -scaled else scaled

/-- Is the first number below the second? What is not a number is neither below nor above any
other. -/
def isBelow : Double → Double → Bool
  | nan, _ => false
  | _, nan => false
  | infinity x, infinity y => x && !y
  | infinity x, finite _ _ _ => x
  | finite _ _ _, infinity y => !y
  | finite s m e, finite s' m' e' =>
    decide (signedAt (min e e') s m e < signedAt (min e e') s' m' e')

end Double
end TrackingPlan
