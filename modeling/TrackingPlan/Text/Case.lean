import TrackingPlan.Text.Blank
import TrackingPlan.Text.CaseTable

/-!
# Upper and lower case

The full case mappings, which do not depend on a locale: one character may become several. All
mappings but one look at a single character. The exception is the capital sigma, which becomes
a final small sigma when a cased character stands before it and none after it, the ignorable
characters between them being skipped.

Key definitions: `upperChar`, `upper`, `lowerChar`, `lower`, `capitalize`, `decapitalize`.
-/

namespace TrackingPlan
namespace Text

/-- The upper case form of a character. -/
def upperChar (c : Char) : List Char :=
  if c.toNat < 0x80 then [c.toUpper]
  else match upperLong.lookup c.toNat with
    | some image => image.map Char.ofNat
    | none => match applyRuns upperRuns c.toNat with
      | some image => [Char.ofNat image]
      | none => [c]

/-- The lower case form of a character that stands alone. -/
def lowerChar (c : Char) : List Char :=
  if c.toNat < 0x80 then [c.toLower]
  else match lowerLong.lookup c.toNat with
    | some image => image.map Char.ofNat
    | none => match applyRuns lowerRuns c.toNat with
      | some image => [Char.ofNat image]
      | none => [c]

/-- A letter with a case, for the rule of the final sigma. -/
def isCased (c : Char) : Bool := inRanges casedRanges c.toNat

/-- A character that the rule of the final sigma skips. -/
def isIgnorable (c : Char) : Bool := inRanges ignorableRanges c.toNat

/-- Is the first character that is not skipped a cased one? -/
def meetsCased (s : List Char) : Bool :=
  match s.dropWhile isIgnorable with
  | [] => false
  | c :: _ => isCased c

/-- The lower case form of `rest`, where `before` holds the characters before it, nearest first. -/
def lowerAfter (before : List Char) : List Char → List Char
  | [] => []
  | c :: rest =>
    (if c = 'Σ' then (if meetsCased before && !meetsCased rest then ['ς'] else ['σ'])
      else lowerChar c) ++ lowerAfter (c :: before) rest

/-- The text in upper case. -/
def upper (s : List Char) : List Char := s.flatMap upperChar

/-- The text in lower case. -/
def lower (s : List Char) : List Char := lowerAfter [] s

/-- The text with its first character in upper case. -/
def capitalize : List Char → List Char
  | [] => []
  | c :: rest => upperChar c ++ rest

/-- The text with its first character in lower case. -/
def decapitalize : List Char → List Char
  | [] => []
  | c :: rest => lower [c] ++ rest

/-- The lower case form of a string. -/
def lowercase (s : String) : String := String.ofList (lower s.toList)

end Text
end TrackingPlan
