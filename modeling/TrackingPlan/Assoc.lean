/-!
# Ordered tables

A table from names to values that remembers the order in which its names first came. Setting a
name that is there keeps its place; a new name goes to the end.

Key definitions: `Assoc`, `Assoc.get?`, `Assoc.set`, `Assoc.update`, `Assoc.ofPairs`.
-/

namespace TrackingPlan

/-- A table in the order of insertion. -/
abbrev Assoc (α : Type) := List (String × α)

namespace Assoc

variable {α : Type}

/-- The value of a name. -/
def get? (t : Assoc α) (name : String) : Option α := t.lookup name

/-- The names, in order. -/
def keys (t : Assoc α) : List String := t.map (·.1)

/-- Is the name in the table? -/
def has (t : Assoc α) (name : String) : Bool := (t.get? name).isSome

/-- The table with the value of a name replaced, or the name added at the end. -/
def set (t : Assoc α) (name : String) (value : α) : Assoc α :=
  match t with
  | [] => [(name, value)]
  | (n, v) :: rest => if n = name then (n, value) :: rest else (n, v) :: set rest name value

/-- The table with all pairs of another one set in their order. -/
def update (t other : Assoc α) : Assoc α := other.foldl (fun t p => t.set p.1 p.2) t

/-- The table of a list of pairs; of pairs with one name the last gives the value and the first
the place. -/
def ofPairs (pairs : List (String × α)) : Assoc α := update [] pairs

/-- The table without a name. -/
def erase (t : Assoc α) (name : String) : Assoc α := t.filter (·.1 ≠ name)

end Assoc
end TrackingPlan
