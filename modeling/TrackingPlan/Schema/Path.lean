import TrackingPlan.Json.Basic

/-!
# Places in a document

A path leads from the root of a document to a value by member names and item numbers. A path of
at most one member is written with `schema` in front of it, a longer one without.

Key definitions: `Path`, `Path.text`, `Json.follow?`.
-/

namespace TrackingPlan

/-- One step into a value. -/
inductive Step where
  | key (name : String)
  | index (i : Nat)
  deriving DecidableEq, Repr

/-- The steps from the root to a place. -/
abbrev Path := List Step

namespace Path

/-- The text of the steps after the first. -/
def tailText : Path → String
  | [] => ""
  | .key name :: rest => "." ++ name ++ tailText rest
  | .index i :: rest => "[" ++ toString i ++ "]" ++ tailText rest

/-- The text of a path in messages. -/
def text : Path → String
  | .key name :: step :: rest => name ++ tailText (step :: rest)
  | path => "schema" ++ tailText path

end Path

/-- The value at a place of a document, if there is one. -/
def Json.follow? : Path → Json → Option Json
  | [], v => some v
  | .key name :: rest, .obj members => (Assoc.get? members name).bind (follow? rest)
  | .index i :: rest, .arr items => items[i]?.bind (follow? rest)
  | _, _ => none

end TrackingPlan
