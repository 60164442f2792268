import TrackingPlan.Json.Basic
import TrackingPlan.Number.Digits

/-!
# How much a value holds

Two measures that reading and writing have limits for: how deep lists and objects stand in each
other, and how many digits the longest integer has.

Key definitions: `Json.depth`, `Json.longestInteger`.
-/

namespace TrackingPlan
namespace Json

mutual

/-- How deep lists and objects stand in each other. -/
def depth : Json → Nat
  | arr items => depthOfItems items + 1
  | obj members => depthOfMembers members + 1
  | _ => 0

/-- The depth of the deepest item. -/
def depthOfItems : List Json → Nat
  | [] => 0
  | x :: rest => max (depth x) (depthOfItems rest)

/-- The depth of the deepest member. -/
def depthOfMembers : List (String × Json) → Nat
  | [] => 0
  | (_, x) :: rest => max (depth x) (depthOfMembers rest)

end

mutual

/-- How many digits the longest integer has. -/
def longestInteger : Json → Nat
  | int n => digitCount n
  | arr items => longestOfItems items
  | obj members => longestOfMembers members
  | _ => 0

/-- How many digits the longest integer of the items has. -/
def longestOfItems : List Json → Nat
  | [] => 0
  | x :: rest => max (longestInteger x) (longestOfItems rest)

/-- How many digits the longest integer of the members has. -/
def longestOfMembers : List (String × Json) → Nat
  | [] => 0
  | (_, x) :: rest => max (longestInteger x) (longestOfMembers rest)

end

end Json
end TrackingPlan
