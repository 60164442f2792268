import TrackingPlan.Number.Double

/-!
# The text of a double

A double is written with the fewest significant digits that read back as the same double, and
among these with the digits nearest to it. A number from 0.0001 up to below 10^16 is written
without an exponent; a number without a fraction keeps a final `.0`, except before an exponent.

Key definitions: `Double.shortest`, `Double.toText`.
-/

namespace TrackingPlan
namespace Double

/-- The decimal exponent of the first significant digit of the positive `n / d`. -/
def leadingExponent (n d : Nat) : Int :=
  if d ≤ n then (digitCount (n / d) : Int) - 1 else -(digitCount ((d - 1) / n) : Int)

/-- The multiple of `10 ^ u` that is nearest to `n / d` among the two neighbours that read back
as `x`, if one of them does. -/
def decimalAt (x : Double) (n d : Nat) (u : Int) : Option Nat :=
  let (a, b) := if 0 ≤ u then (n, d * Nat.pow 10 u.toNat) else (n * Nat.pow 10 (-u).toNat, d)
  let low := a / b
  let fits (m : Nat) : Bool := decide (ofScientific false m u = x)
  match fits low, fits (low + 1) with
  | true, true => some (roundQuotient a b)
  | true, false => some low
  | false, true => some (low + 1)
  | false, false => none

/-- The shortest decimal `digits * 10 ^ u` that reads back as the positive `m * 2 ^ e`. -/
def shortest (m : Nat) (e : Int) : Nat × Int :=
  let (n, d) := unscale m 1 (-e)
  let top := leadingExponent n d
  let x := finite false m e
  match (List.range 17).findSome? fun (p : Nat) =>
      (decimalAt x n d (top - p)).map fun digits => (digits, top - p) with
  | some found => found
  | none => (m, e)

/-- The digits with a point after the first `k` of them. -/
def positional (digits : List Char) (k : Int) : List Char :=
  if k ≤ 0 then ['0', '.'] ++ List.replicate (-k).toNat '0' ++ digits
  else if digits.length ≤ k.toNat then
    digits ++ List.replicate (k.toNat - digits.length) '0' ++ ['.', '0']
  else digits.take k.toNat ++ ['.'] ++ digits.drop k.toNat

/-- The digits with a point after the first of them, and the exponent in at least two digits. -/
def exponential (digits : List Char) (e : Int) : List Char :=
  let size := Nat.toDigits 10 e.natAbs
  let fraction := match digits with
    | [d] => [d]
    | d :: rest => d :: '.' :: rest
    | [] => []
  fraction ++ ['e', if e < 0 then '-' else '+'] ++ List.replicate (2 - size.length) '0' ++ size

/-- The text of a positive double. -/
def magnitudeText (m : Nat) (e : Int) : List Char :=
  let (value, u) := shortest m e
  let all := Nat.toDigits 10 value
  let digits := (all.reverse.dropWhile (· = '0')).reverse
  let k : Int := (all.length : Int) + u
  if -4 < k ∧ k ≤ 16 then positional digits k else exponential digits (k - 1)

/-- The text of a double, where `special` writes what is not finite. -/
def textWith (special : Option Bool → String) : Double → String
  | nan => special none
  | infinity negative => special (some negative)
  | finite negative m e =>
    (if negative then "-" else "") ++
      (if m = 0 then "0.0" else String.ofList (magnitudeText m e))

/-- The text of a double for people. -/
def toText : Double → String := textWith fun
  | none => "nan"
  | some negative => if negative then "-inf" else "inf"

end Double
end TrackingPlan
