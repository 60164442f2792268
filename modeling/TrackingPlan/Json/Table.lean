import TrackingPlan.Json.Printer

/-!
# Tables under names of any kind

A list of pairs can be read as a table. Its names may be any values that hold no others: two
names are one when they are the same value, so that 1, 1.0 and true are, and 1 and the text of
it are not.

Key definitions: `Table`, `Table.set`, `Table.update`, `Table.lookup?`, `Table.ofItems?`,
`Table.ofValue?`, `Table.same`.
-/

namespace TrackingPlan

/-- A table in the order of insertion. -/
abbrev Table := List (Json × Json)

/-- The values that a value lists: the items of a list, the characters of a text, the names of an
object. -/
def Json.elements? : Json → Option (List Json)
  | .arr items => some items
  | .str s => some (s.toList.map fun c => .str (String.singleton c))
  | .obj members => some (members.map fun p => .str p.1)
  | _ => none

namespace Table

/-- The table with the value of a name replaced, or the name added at the end. -/
def set (t : Table) (name value : Json) : Table :=
  match t with
  | [] => [(name, value)]
  | (n, v) :: rest => if n.same name then (n, value) :: rest else (n, v) :: set rest name value

/-- The table with all pairs of another one set in their order. -/
def update (t other : Table) : Table := other.foldl (fun t p => set t p.1 p.2) t

/-- The members of an object as a table. -/
def ofMembers (members : Assoc Json) : Table := members.map fun (name, v) => (.str name, v)

/-- The value of a text that is a name. -/
def lookup? (t : Table) (name : String) : Option Json :=
  (t.find? fun p => p.1 = .str name).map (·.2)

/-- The table of a list whose items list a name and a value each. -/
def ofItems? : List Json → Option Table
  | [] => some []
  | item :: rest => match item.elements? with
    | some [name, value] =>
      if name.isContainer then none else (ofItems? rest).map ((name, value) :: ·)
    | _ => none

/-- The table that a value stands for: an object, a list of pairs, or a value that is not set. -/
def ofValue? (v : Json) : Option Table :=
  if v.isTruthy then
    match v with
    | .obj members => some (ofMembers members)
    | .arr items => (ofItems? items).map (update [])
    | _ => none
  else some []

/-- Do two tables give the same names the same values, in whatever order? -/
def same (a b : Table) : Bool :=
  a.length == b.length && a.all fun (name, v) => b.any fun (n, w) => n.same name && v.same w

/-- The members of an object that has the texts among the names of a table as its own, when
there are no other names. -/
def members? : Table → Option (Assoc Json)
  | [] => some []
  | (.str name, v) :: rest => (members? rest).map ((name, v) :: ·)
  | _ => none

/-- A name as the member of an object: a text as it is, any other value in its JSON form. -/
def memberName : Json → String
  | .str s => s
  | v => v.compact

/-- The members of the object that a table is written as. -/
def written (t : Table) : Assoc Json := t.map fun (name, v) => (memberName name, v)

end Table
end TrackingPlan
