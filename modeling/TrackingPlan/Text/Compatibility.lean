import TrackingPlan.Text.CompatibilityTable
import TrackingPlan.Text.Rows

/-!
# The plain form of a text

Characters that are variants of others are replaced by those, and then what can be written as one
character is: the normalization form NFKC of the Unicode standard. Two names with one plain form
are one name to a reader.

A text is taken apart into full decompositions, runs of combining characters are put into the
order of their classes, and each character is joined with the last one that combines with none
before it, unless a character of the same or a higher class stands between the two. A text of
ASCII characters is its own plain form.

Key definitions: `decomposed`, `ordered`, `composed`, `plainForm`.
-/

namespace TrackingPlan
namespace Text

/-- The code points of a list in hexadecimal digits with plus signs between them. -/
def codePoints (s : List Char) : List Nat := (s.splitOn '+').filterMap hexValue?

/-- The full decomposition that the table has for a code point. -/
def tabledDecomposition? (n : Nat) : Option (List Nat) :=
  (rows decompositionTable).findSome? fun (first, row) =>
    if first ≤ n then ((row.splitOn ' ')[n - first]?).map codePoints else none

/-- The full decomposition of a code point: a Hangul syllable is two or three letters. -/
def decomposed (n : Nat) : List Nat :=
  if n < 0x80 then [n]
  else if 0xAC00 ≤ n ∧ n < 0xAC00 + 11172 then
    let i := n - 0xAC00
    let tail := if i % 28 = 0 then [] else [0x11A7 + i % 28]
    [0x1100 + i / 588, 0x1161 + i % 588 / 28] ++ tail
  else (tabledDecomposition? n).getD [n]

/-- The combining class of a code point; zero when it does not combine with one before it. -/
def combiningClass (n : Nat) : Nat :=
  if n < 0x300 then 0
  else ((combiningRanges.find? fun (first, last, _) => first ≤ n ∧ n ≤ last).map (·.2.2)).getD 0

/-- A code point put before a list in order: behind those of a lower class other than zero. -/
def placed (n : Nat) : List Nat → List Nat
  | [] => [n]
  | m :: rest =>
    if combiningClass m ≠ 0 ∧ combiningClass m < combiningClass n then m :: placed n rest
    else n :: m :: rest

/-- The code points with every run of combining ones in the order of their classes. -/
def ordered (s : List Nat) : List Nat := s.foldr placed []

/-- The composition that an item of the table gives for a code point. -/
def composition? (m : Nat) (item : List Char) : Option Nat :=
  match item.splitOn '=' with
  | [second, whole] => if hexValue? second = some m then hexValue? whole else none
  | _ => none

/-- The character that two others compose. -/
def joined? (n m : Nat) : Option Nat :=
  if 0x1100 ≤ n ∧ n < 0x1100 + 19 ∧ 0x1161 ≤ m ∧ m < 0x1161 + 21 then
    some (0xAC00 + ((n - 0x1100) * 21 + (m - 0x1161)) * 28)
  else if 0xAC00 ≤ n ∧ n < 0xAC00 + 11172 ∧ (n - 0xAC00) % 28 = 0 ∧
      0x11A7 < m ∧ m < 0x11A7 + 28 then
    some (n + (m - 0x11A7))
  else (rows compositionTable).findSome? fun (first, row) =>
    if first = n then (row.splitOn ' ').findSome? (composition? m) else none

/-- The code points after a character that combines with none before it and after those that
stand behind it, each joined with it where that can be. -/
def composedAfter (start : Nat) (between : List Nat) : List Nat → List Nat
  | [] => start :: between
  | n :: rest =>
    let isNear := match between.getLast? with
      | none => true
      | some m => decide (combiningClass m < combiningClass n)
    match if isNear then joined? start n else none with
    | some whole => composedAfter whole between rest
    | none =>
      if combiningClass n = 0 then start :: between ++ composedAfter n [] rest
      else composedAfter start (between ++ [n]) rest

/-- The code points with each joined where it can be. -/
def composed : List Nat → List Nat
  | [] => []
  | n :: rest =>
    if combiningClass n = 0 then composedAfter n [] rest else n :: composed rest

/-- The plain form of a text. -/
def plainForm (s : List Char) : List Char :=
  if s.all fun c => c.toNat < 0x80 then s
  else (composed (ordered (s.flatMap fun c => decomposed c.toNat))).map Char.ofNat

end Text
end TrackingPlan
