import TrackingPlan.Text.Blank
import TrackingPlan.Text.Hexadecimal
import TrackingPlan.Text.PrintableTable

/-!
# Text shown inside a value

A text that is shown as part of a larger value stands between single quotes, or between double
quotes when it holds a single quote and no double one. The quote around it and the backslash are
escaped, three control characters have a letter of their own, and what is not printable is given
by its number in two, four or eight hexadecimal digits.

Key definitions: `isPrintable`, `shownQuoted`.
-/

namespace TrackingPlan
namespace Text

/-- Can the character be shown as it is? -/
def isPrintable (c : Char) : Bool := inRanges printableRanges c.toNat

/-- The escape of a character by its number. -/
def numberEscape (c : Char) : List Char :=
  if c.toNat < 0x100 then '\\' :: 'x' :: hexDigits 2 c.toNat
  else if c.toNat < 0x10000 then '\\' :: 'u' :: hexDigits 4 c.toNat
  else '\\' :: 'U' :: hexDigits 8 c.toNat

/-- How one character is shown between two quotes. -/
def shownChar (quote c : Char) : List Char :=
  if c = quote ∨ c = '\\' then ['\\', c]
  else if c = '\n' then ['\\', 'n']
  else if c = '\r' then ['\\', 'r']
  else if c = '\t' then ['\\', 't']
  else if isPrintable c then [c]
  else numberEscape c

/-- The quote that a text is shown between. -/
def quoteFor (s : List Char) : Char :=
  if s.contains '\'' && !s.contains '"' then '"' else '\''

/-- The text as it is shown inside a larger value. -/
def shownQuoted (s : String) : String :=
  let quote := quoteFor s.toList
  String.ofList (quote :: s.toList.flatMap (shownChar quote) ++ [quote])

end Text
end TrackingPlan
