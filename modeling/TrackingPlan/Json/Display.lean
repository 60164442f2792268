import TrackingPlan.Json.Basic
import TrackingPlan.Number.Digits
import TrackingPlan.Text.Printable

/-!
# Values shown to people

A text is shown as it is. Everything else is shown in one form wherever it stands: the words
`None`, `True` and `False`, numbers by their shortest text, and lists and objects with their
contents, in which a text stands between quotes. A value is not shown when an integer in it has too
many digits to be written.

Key definitions: `Json.inner?`, `Json.display?`, `Json.displayNames?`.
-/

namespace TrackingPlan
namespace Json

mutual

/-- A value as it is shown inside another one, if it can be. -/
def inner? : Json → Option String
  | null => some "None"
  | bool b => some (if b then "True" else "False")
  | int n => integerText? n
  | real x => some x.toText
  | str s => some (Text.shownQuoted s)
  | arr items => (innerItems? items).map fun text => "[" ++ text ++ "]"
  | obj members => (innerMembers? members).map fun text => "\x7b" ++ text ++ "\x7d"

/-- The items of a list, with commas between them. -/
def innerItems? : List Json → Option String
  | [] => some ""
  | x :: rest => do
    return (← inner? x) ++ (if rest.isEmpty then "" else ", ") ++ (← innerItems? rest)

/-- The members of an object, with commas between them. -/
def innerMembers? : List (String × Json) → Option String
  | [] => some ""
  | (k, x) :: rest => do
    return Text.shownQuoted k ++ ": " ++ (← inner? x) ++ (if rest.isEmpty then "" else ", ") ++
      (← innerMembers? rest)

end

/-- The text of a value as people are shown it, if they can be. -/
def display? : Json → Option String
  | str s => some s
  | v => v.inner?

/-- The pairs with what is shown of their names, if all of them can be. -/
def displayNames? (pairs : List (Json × String)) : Option (List (String × String)) :=
  pairs.mapM fun (name, text) => do return (← name.display?, text)

@[simp]
theorem display?_str (s : String) : (str s).display? = some s := rfl

end Json
end TrackingPlan
