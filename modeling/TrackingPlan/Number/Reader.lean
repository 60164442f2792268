import TrackingPlan.Number.Double
import TrackingPlan.Text.Case

/-!
# Reading a number from text

A number may be surrounded by white space. It is a sign, digits with an optional point, and an
optional exponent, or one of the words for infinity and for what is not a number, in any case.
A single underscore may stand between two digits, and the digits of every script are accepted.

Key definition: `Double.read?`.
-/

namespace TrackingPlan

namespace Text

/-- The zero of each row of ten decimal digits. -/
def zeroDigits : List Nat := [
  0x30, 0x660, 0x6F0, 0x7C0, 0x966, 0x9E6, 0xA66, 0xAE6, 0xB66, 0xBE6,
  0xC66, 0xCE6, 0xD66, 0xDE6, 0xE50, 0xED0, 0xF20, 0x1040, 0x1090, 0x17E0,
  0x1810, 0x1946, 0x19D0, 0x1A80, 0x1A90, 0x1B50, 0x1BB0, 0x1C40, 0x1C50, 0xA620,
  0xA8D0, 0xA900, 0xA9D0, 0xA9F0, 0xAA50, 0xABF0, 0xFF10, 0x104A0, 0x10D30, 0x11066,
  0x110F0, 0x11136, 0x111D0, 0x112F0, 0x11450, 0x114D0, 0x11650, 0x116C0, 0x11730, 0x118E0,
  0x11950, 0x11C50, 0x11D50, 0x11DA0, 0x16A60, 0x16AC0, 0x16B50, 0x1D7CE, 0x1D7D8, 0x1D7E2,
  0x1D7EC, 0x1D7F6, 0x1E140, 0x1E2F0, 0x1E950, 0x1FBF0]

/-- The value of a decimal digit of any script. -/
def digitValue? (c : Char) : Option Nat :=
  zeroDigits.findSome? fun z =>
    if z ≤ c.toNat ∧ c.toNat < z + 10 then some (c.toNat - z) else none

end Text

namespace Double

/-- White space around a number: the separators U+001C to U+001F do not count. -/
def isSpaceAround (c : Char) : Bool := Text.isBlank c && !(0x1C ≤ c.toNat && c.toNat ≤ 0x1F)

/-- The text with the digits of every script written in ASCII, and each single underscore
between two digits left out; any other underscore stays. -/
def plainDigits (afterDigit : Bool) : List Char → List Char
  | [] => []
  | c :: rest =>
    match Text.digitValue? c with
    | some d => Nat.digitChar d :: plainDigits true rest
    | none =>
      if c = '_' ∧ afterDigit = true ∧ (rest.head?.bind Text.digitValue?).isSome = true then
        plainDigits false rest
      else c :: plainDigits false rest

/-- The longest run of ASCII digits at the start, and the rest. -/
def digitRun (s : List Char) : List Char × List Char :=
  (s.takeWhile Char.isDigit, s.dropWhile Char.isDigit)

/-- The number that a list of ASCII digits writes. -/
def digitsValue (s : List Char) : Nat := Nat.ofDigitChars 10 s 0

/-- The text without its sign, and whether that was a minus. -/
def splitSign : List Char → Bool × List Char
  | '-' :: rest => (true, rest)
  | '+' :: rest => (false, rest)
  | s => (false, s)

/-- The value of an exponent part, which may be missing. -/
def exponent? : List Char → Option Int
  | [] => some 0
  | c :: rest =>
    if c = 'e' ∨ c = 'E' then
      let (negative, digits) := splitSign rest
      if digits.isEmpty || !digits.all Char.isDigit then none
      else
        let n : Int := (digitsValue digits : Int)
        some (if negative then -n else n)
    else none

/-- A number without a sign: digits, an optional point, an optional exponent. -/
def unsigned? (negative : Bool) (s : List Char) : Option Double :=
  let (whole, rest) := digitRun s
  let (fraction, rest) := match rest with
    | '.' :: more => digitRun more
    | more => ([], more)
  if whole.isEmpty && fraction.isEmpty then none
  else (exponent? rest).map fun e =>
    ofScientific negative (digitsValue (whole ++ fraction)) (e - (fraction.length : Int))

/-- The double that a text writes, if it writes one. -/
def read? (s : List Char) : Option Double :=
  let (negative, body) := splitSign (plainDigits false (Text.trim isSpaceAround s))
  let word := body.map Char.toLower
  if word = "inf".toList ∨ word = "infinity".toList then some (infinity negative)
  else if word = "nan".toList then some nan
  else unsigned? negative body

end Double
end TrackingPlan
