import TrackingPlan.Json.Basic
import TrackingPlan.Text.Quoted

/-!
# Writing JSON

Two layouts of one text: on a single line, or with every item and member on a line of its own,
two spaces deeper than its container. Characters beyond ASCII are not escaped, and an empty
list or object stays on its line.

Key definitions: `Json.compact`, `Json.pretty`.
-/

namespace TrackingPlan
namespace Json

/-- The text of a double in a document. -/
def numberText : Double → String := Double.textWith fun
  | none => "NaN"
  | some negative => if negative then "-Infinity" else "Infinity"

/-- The text of a value that holds no other value. -/
def scalarText : Json → String
  | null => "null"
  | bool b => if b then "true" else "false"
  | int n => toString n
  | real x => numberText x
  | str s => Text.quote s
  | arr _ => "[]"
  | obj _ => "\x7b\x7d"

/-- A line end and the indentation of a depth. -/
def newLine (depth : Nat) : String := String.ofList ('\n' :: List.replicate (2 * depth) ' ')

mutual

/-- The text on a single line. -/
def compact : Json → String
  | arr items => "[" ++ compactItems items ++ "]"
  | obj members => "\x7b" ++ compactMembers members ++ "\x7d"
  | null => scalarText null
  | bool b => scalarText (bool b)
  | int n => scalarText (int n)
  | real x => scalarText (real x)
  | str s => scalarText (str s)

/-- The items of a list, with commas between them. -/
def compactItems : List Json → String
  | [] => ""
  | x :: rest => compact x ++ (if rest.isEmpty then "" else ", ") ++ compactItems rest

/-- The members of an object, with commas between them. -/
def compactMembers : List (String × Json) → String
  | [] => ""
  | (k, x) :: rest =>
    Text.quote k ++ ": " ++ compact x ++ (if rest.isEmpty then "" else ", ") ++
      compactMembers rest

end

instance : Repr Json := ⟨fun v _ => v.compact⟩

mutual

/-- The text over several lines, for a value at some depth. -/
def prettyAt (depth : Nat) : Json → String
  | arr items =>
    if items.isEmpty then "[]"
    else "[" ++ prettyItems (depth + 1) items ++ newLine depth ++ "]"
  | obj members =>
    if members.isEmpty then "\x7b\x7d"
    else "\x7b" ++ prettyMembers (depth + 1) members ++ newLine depth ++ "\x7d"
  | null => scalarText null
  | bool b => scalarText (bool b)
  | int n => scalarText (int n)
  | real x => scalarText (real x)
  | str s => scalarText (str s)

/-- The items of a list, each on its line. -/
def prettyItems (depth : Nat) : List Json → String
  | [] => ""
  | x :: rest =>
    newLine depth ++ prettyAt depth x ++ (if rest.isEmpty then "" else ",") ++
      prettyItems depth rest

/-- The members of an object, each on its line. -/
def prettyMembers (depth : Nat) : List (String × Json) → String
  | [] => ""
  | (k, x) :: rest =>
    newLine depth ++ Text.quote k ++ ": " ++ prettyAt depth x ++
      (if rest.isEmpty then "" else ",") ++ prettyMembers depth rest

end

/-- The text over several lines. -/
def pretty (v : Json) : String := prettyAt 0 v

end Json
end TrackingPlan
