import TrackingPlan.Text.Hexadecimal

/-!
# Tables written in rows

A long table of characters is kept as a text. Each line that is not empty is a row: a code point
in hexadecimal digits, a blank, and what the table says about the characters from there on.

Key definition: `rows`.
-/

namespace TrackingPlan
namespace Text

/-- The code point that a line starts with, and the rest of the line. -/
def row? (line : List Char) : Option (Nat × List Char) :=
  let line := line.dropWhile (· = ' ')
  let (digits, rest) := line.span (· ≠ ' ')
  if digits.isEmpty then none else (hexValue? digits).map fun n => (n, rest.drop 1)

/-- The rows of a table. -/
def rows (table : String) : List (Nat × List Char) := (table.toList.splitOn '\n').filterMap row?

end Text
end TrackingPlan
