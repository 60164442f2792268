/-!
# Plain and snake-case words

A plain word holds ASCII letters, digits and underscores only and neither starts nor ends with
an underscore. In snake case it is split where a lower case letter or a digit meets an upper
case letter, and before the last letter of an upper case run that a lower case letter follows.

Key definitions: `plainWord`, `snakeWord`.
-/

namespace TrackingPlan
namespace Naming

/-- A character of a plain word. -/
def isWordChar (c : Char) : Bool := c.isAlphanum || c = '_'

/-- The text without the underscores at both ends. -/
def trimUnderscores (s : List Char) : List Char :=
  ((s.dropWhile (· = '_')).reverse.dropWhile (· = '_')).reverse

/-- The plain word of a name: every other character counts as an underscore, and a word that
would be empty is `field`. -/
def plainWord (s : List Char) : List Char :=
  let word := trimUnderscores (s.map fun c => if isWordChar c then c else '_')
  if word.isEmpty then ['f', 'i', 'e', 'l', 'd'] else word

/-- Parts an upper case run from the word that its last letter starts. -/
def splitRuns : List Char → List Char
  | a :: b :: c :: rest =>
    if a.isUpper && b.isUpper && c.isLower then a :: '_' :: splitRuns (b :: c :: rest)
    else a :: splitRuns (b :: c :: rest)
  | s => s

/-- Parts a lower case letter or a digit from the upper case letter after it. -/
def splitHumps : List Char → List Char
  | a :: b :: rest =>
    if (a.isLower || a.isDigit) && b.isUpper then a :: '_' :: splitHumps (b :: rest)
    else a :: splitHumps (b :: rest)
  | s => s

/-- Leaves one of several underscores in a row. -/
def collapseUnderscores : List Char → List Char
  | a :: b :: rest =>
    if a = '_' ∧ b = '_' then collapseUnderscores (b :: rest)
    else a :: collapseUnderscores (b :: rest)
  | s => s

/-- The snake-case form of a plain word. -/
def snakeWord (s : List Char) : List Char :=
  trimUnderscores (collapseUnderscores ((splitHumps (splitRuns s)).map Char.toLower))

end Naming
end TrackingPlan
