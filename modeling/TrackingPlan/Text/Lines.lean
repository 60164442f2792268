/-!
# Lines

A text is a list of lines with a line feed between each two; a text without a line feed is one
line. Other line end characters are ordinary characters of a line.

Key definitions: `lines`, `unlines`, `mapLines`, `normalizeNewlines`.
-/

namespace TrackingPlan
namespace Text

/-- The lines of a text; there is always at least one. -/
def lines (s : List Char) : List (List Char) := s.splitOn '\n'

/-- The text of a list of lines. -/
def unlines (ls : List (List Char)) : List Char := ['\n'].intercalate ls

/-- The text with every line, given its number from 0, replaced. -/
def mapLines (f : Nat → List Char → List Char) (s : List Char) : List Char :=
  unlines ((lines s).mapIdx f)

/-- The text with every carriage return, alone or before a line feed, turned into a line feed. -/
def normalizeNewlines : List Char → List Char
  | '\r' :: '\n' :: rest => '\n' :: normalizeNewlines rest
  | '\r' :: rest => '\n' :: normalizeNewlines rest
  | c :: rest => c :: normalizeNewlines rest
  | [] => []

/-- Does `part` occur in the text? -/
def contains (part : List Char) : List Char → Bool
  | [] => part.isEmpty
  | c :: rest => part.isPrefixOf (c :: rest) || contains part rest

end Text
end TrackingPlan
