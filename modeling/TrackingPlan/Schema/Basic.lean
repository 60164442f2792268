import TrackingPlan.Number.Digits

/-!
# Schemas

The catalogue of the events of one project in one version: what an event is called, which values
are known in advance, which parameters the caller supplies, and the types of the parameters.

Key definitions: `Schema`, `Event`, `Value`, `Parameter`, `ParameterType`, `Value.payloads`,
`Schema.enumTypes`.
-/

namespace TrackingPlan

/-- The types that every target language knows. -/
inductive Primitive where
  | string
  | integer
  | boolean
  deriving DecidableEq, Repr

/-- The name of a primitive type in a schema. -/
def Primitive.name : Primitive → String
  | string => "String"
  | integer => "Integer"
  | boolean => "Boolean"

/-- The type of a parameter: a primitive one, or a type of the schema by its name. -/
inductive ParameterType where
  | primitive (p : Primitive)
  | named (name : String)
  deriving DecidableEq, Repr

namespace ParameterType

/-- The type that a type name stands for. -/
def ofName (name : String) : ParameterType :=
  if name = Primitive.string.name then primitive .string
  else if name = Primitive.integer.name then primitive .integer
  else if name = Primitive.boolean.name then primitive .boolean
  else named name

/-- The name of a type in a schema. -/
def name : ParameterType → String
  | primitive p => p.name
  | named n => n

end ParameterType

/-- A parameter of an event; `publishName` is its key in the published record. -/
structure Parameter where
  name : String
  type : ParameterType
  description : String := ""
  publishName : String := ""
  deriving DecidableEq, Repr

/-- The places of a value that can hold its payload. -/
inductive Slot where
  | string
  | integer
  | boolean
  | stringEnum
  deriving DecidableEq, Repr

/-- The word for a slot in messages. -/
def Slot.word : Slot → String
  | string => "string"
  | integer => "integer"
  | boolean => "boolean"
  | stringEnum => "string_enum"

/-- A parameter whose value is known in advance. -/
structure Value where
  parameter : Parameter
  string : Option String := none
  integer : Option Int := none
  boolean : Option Bool := none
  stringEnum : Option String := none
  deriving DecidableEq, Repr

/-- The slots that are set, in their fixed order, each with the text of its payload, if that can
be written. -/
def Value.payloads (v : Value) : List (Slot × Option String) :=
  (v.string.map fun s => (Slot.string, some s)).toList ++
  (v.integer.map fun n => (Slot.integer, integerText? n)).toList ++
  (v.boolean.map fun b => (Slot.boolean, some (if b then "true" else "false"))).toList ++
  (v.stringEnum.map fun s => (Slot.stringEnum, some s)).toList

/-- A tag of an event, with its class. -/
structure Tag where
  name : String
  tagClass : String := ""
  deriving DecidableEq, Repr

/-- One event that can be tracked. -/
structure Event where
  id : Int
  name : String
  description : String := ""
  values : List Value := []
  parameters : List Parameter := []
  tags : List Tag := []
  deriving DecidableEq, Repr

/-- A type of the schema; it produces code only when it lists the strings it admits. -/
structure SchemaType where
  name : String
  stringEnum : Option (List String) := none
  deriving DecidableEq, Repr

/-- The events and types of a project in one version. -/
structure Schema where
  projectId : String
  versionNumber : Int
  events : List Event := []
  types : List SchemaType := []
  deriving DecidableEq, Repr

/-- The types that list their strings, in order. -/
def Schema.enumTypes (s : Schema) : List SchemaType :=
  s.types.filter (·.stringEnum.isSome)

end TrackingPlan
