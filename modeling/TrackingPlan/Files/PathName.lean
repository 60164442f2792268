/-!
# Path names

A path name is a list of steps. Empty steps and steps that stay where they are count for
nothing; a step to the parent is kept. The path name without any step is written as a dot.

Key definitions: `PathName`, `PathName.ofString`, `PathName.text`, `PathName.join`,
`PathName.suffix`.
-/

namespace TrackingPlan

/-- The steps of a path, after the root of an absolute one. -/
structure PathName where
  root : String := ""
  parts : List String := []
  deriving DecidableEq, Repr

namespace PathName

/-- The root that a text starts with: exactly two strokes are a root of their own. -/
def rootOf : List Char → String
  | '/' :: '/' :: '/' :: _ => "/"
  | '/' :: '/' :: _ => "//"
  | '/' :: _ => "/"
  | _ => ""

/-- The path name that a text writes. -/
def ofString (text : String) : PathName where
  root := rootOf text.toList
  parts := ((text.toList.splitOn '/').map String.ofList).filter fun p => p ≠ "" ∧ p ≠ "."

/-- The text of a path name. -/
def text (p : PathName) : String :=
  if p.root = "" ∧ p.parts = [] then "." else p.root ++ "/".intercalate p.parts

/-- The path name after another one; an absolute one stands for itself. -/
def join (p q : PathName) : PathName :=
  if q.root = "" then { p with parts := p.parts ++ q.parts } else q

/-- The end of a name from its last point on, when something stands on both sides of it. -/
def suffixOf (name : List Char) : List Char :=
  let tail := (name.reverse.takeWhile (· ≠ '.')).reverse
  if tail ≠ [] ∧ tail.length + 1 < name.length then '.' :: tail else []

/-- The suffix of the last step. -/
def suffix (p : PathName) : String :=
  match p.parts.getLast? with
  | some name => String.ofList (suffixOf name.toList)
  | none => ""

end PathName
end TrackingPlan
