import TrackingPlan.Text.Blank
import TrackingPlan.Text.CharacterNameTable
import TrackingPlan.Text.Rows

/-!
# Characters by name

A character is found by its name or by another name that it has, in letters of either case. Only
the names of Hangul syllables and of unified ideographs, which follow a rule, have to stand in
capitals; the number in the name of an ideograph has four or five digits.

Key definition: `characterNamed?`.
-/

namespace TrackingPlan
namespace Text

/-- The entries of a row: how many words each name shares with the one before, and the rest. -/
def nameEntries (row : List Char) : List (Nat × List Char) :=
  (row.foldr (fun c (text, entries) =>
    if c.isLower then ([], (c.toNat - 'a'.toNat, text) :: entries)
    else (c :: text, entries)) ([], [])).2

/-- The names of a row, as lists of words, after the name before them. -/
def namesAfter (before : List (List Char)) : List (Nat × List Char) → List (List (List Char))
  | [] => []
  | (shared, text) :: rest =>
    let name := before.take shared ++ text.splitOn ' '
    name :: namesAfter name rest

/-- The code point that a table of names gives to a name in capitals. -/
def tabledName? (table : List (Nat × List Char)) (name : List Char) : Option Nat :=
  let words := name.splitOn ' '
  table.findSome? fun (first, row) =>
    ((namesAfter [] (nameEntries row)).findIdx? (· = words)).map (first + ·)

/-- The code point of a name in capitals that ends in the number of its character. -/
def numberedName? (name : List Char) : Option Nat :=
  numberedNames.findSome? fun (start, first, last) => do
    let digits ← start.toList.isPrefixOf? name
    let n ← hexValue? digits
    if first ≤ n ∧ n ≤ last ∧ digits.head? ≠ some '0' then some n else none

/-- The code point of the syllable of a name. -/
def syllable? (name : List Char) : Option Nat := do
  let letters ← "HANGUL SYLLABLE ".toList.isPrefixOf? name
  syllableLeads.zipIdx.findSome? fun (lead, l) => do
    let letters ← lead.toList.isPrefixOf? letters
    syllableVowels.zipIdx.findSome? fun (vowel, v) => do
      let letters ← vowel.toList.isPrefixOf? letters
      let t ← syllableTails.findIdx? fun tail => tail.toList = letters
      return 0xAC00 + (l * syllableVowels.length + v) * syllableTails.length + t

/-- The code point of the ideograph of a name. -/
def ideograph? (name : List Char) : Option Nat := do
  let digits ← "CJK UNIFIED IDEOGRAPH-".toList.isPrefixOf? name
  let n ← hexValue? digits
  if (digits.length = 4 ∨ digits.length = 5) ∧ !digits.any Char.isLower ∧
    inRanges ideographRanges n then some n else none

/-- The code point of the character of a name. -/
def characterNamed? (name : List Char) : Option Nat :=
  let capitals := name.map Char.toUpper
  (syllable? name).or <| (ideograph? name).or <| (numberedName? capitals).or <|
    (tabledName? (rows otherNameTable) capitals).or (tabledName? (rows characterNameTable) capitals)

end Text
end TrackingPlan
