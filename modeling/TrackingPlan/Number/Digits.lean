/-!
# The text of integers

An integer is written in decimal digits, but only so many of them are written or read: one that
has more is an integer like any other, and has no text.

Key definitions: `digitCount`, `maxIntegerDigits`, `integerText?`.
-/

namespace TrackingPlan

/-- How many decimal digits an integer has. -/
def digitCount (n : Int) : Nat := (Nat.toDigits 10 n.natAbs).length

/-- How many digits an integer may have that is written or read. -/
def maxIntegerDigits : Nat := 4300

/-- The text of an integer, unless it has too many digits. -/
def integerText? (n : Int) : Option String :=
  if digitCount n ≤ maxIntegerDigits then some (toString n) else none

end TrackingPlan
