import TrackingPlan.Schema.Path

/-!
# The format of schema documents

The records of a document and their members as a table: the kind of value that each member has, and
whether it has to be there. A path that follows the table leads to a place of the format, whatever
the numbers of the items on the way.

Key definitions: `RecordKind.members`, `Shape.Admits`, `Place.Admits`, `Place.at?`.
-/

namespace TrackingPlan

/-- The objects that a document is made of. -/
inductive RecordKind where
  | schema
  | event
  | value
  | parameter
  | tag
  | type
  deriving DecidableEq, Repr

/-- What stands at a place: a value without parts, a list of strings, a record, or a list of
records of one kind. -/
inductive Shape where
  | scalar (kind : Json.Kind)
  | strings
  | record (r : RecordKind)
  | records (r : RecordKind)
  deriving DecidableEq, Repr

/-- A place of the format. Where nothing is required, null stands for nothing. -/
structure Place where
  shape : Shape
  required : Bool := true
  deriving DecidableEq, Repr

/-- The members of a record that mean something. -/
def RecordKind.members : RecordKind → Assoc Place
  | schema => [
    ("projectId", ⟨.scalar .text, true⟩),
    ("versionNumber", ⟨.scalar .integer, true⟩),
    ("events", ⟨.records .event, true⟩),
    ("types", ⟨.records .type, false⟩)]
  | event => [
    ("id", ⟨.scalar .integer, true⟩),
    ("name", ⟨.scalar .text, true⟩),
    ("description", ⟨.scalar .text, false⟩),
    ("values", ⟨.records .value, false⟩),
    ("parameters", ⟨.records .parameter, false⟩),
    ("tags", ⟨.records .tag, false⟩)]
  | value => [
    ("parameter", ⟨.record .parameter, true⟩),
    ("stringValue", ⟨.scalar .text, false⟩),
    ("integerValue", ⟨.scalar .integer, false⟩),
    ("booleanValue", ⟨.scalar .boolean, false⟩),
    ("stringEnumValue", ⟨.scalar .text, false⟩)]
  | parameter => [
    ("name", ⟨.scalar .text, true⟩),
    ("typeName", ⟨.scalar .text, true⟩),
    ("description", ⟨.scalar .text, false⟩),
    ("publishName", ⟨.scalar .text, false⟩)]
  | tag => [
    ("name", ⟨.scalar .text, true⟩),
    ("class", ⟨.scalar .text, false⟩)]
  | type => [
    ("name", ⟨.scalar .text, true⟩),
    ("stringEnum", ⟨.strings, false⟩)]

/-- The kinds of values that a shape allows. -/
def Shape.Admits : Shape → Json → Prop
  | scalar kind, v => v.kind = kind
  | strings, v => ∃ texts : List String, v = .arr (texts.map .str)
  | record _, v => v.kind = .object
  | records _, v => v.kind = .list

namespace Place

/-- The kinds of values that a place allows. -/
def Admits (p : Place) (v : Json) : Prop :=
  p.shape.Admits v ∨ p.required = false ∧ v = .null

/-- The place of a whole document. -/
def root : Place := ⟨.record .schema, true⟩

/-- The place to which a path leads, if it follows the format. -/
def at? : Place → Path → Option Place
  | p, [] => some p
  | ⟨.record r, _⟩, .key name :: rest => (r.members.get? name).bind (at? · rest)
  | ⟨.records r, _⟩, .index _ :: rest => at? ⟨.record r, true⟩ rest
  | _, _ :: _ => none

end Place
end TrackingPlan
