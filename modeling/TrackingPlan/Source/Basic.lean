import TrackingPlan.Json.Printer
import TrackingPlan.Schema.Basic

/-!
# Source files

What a generated file says, in no particular language: a function for every event, which makes
a business record and perhaps a published one, and an enumeration for every type that lists its
strings.

Key definitions: `Expression`, `EventRecord`, `EventFunction`, `Enumeration`, `SourceFile`.
-/

namespace TrackingPlan

/-- How the value of a parameter becomes a string. -/
inductive Conversion where
  | identity
  | stringify
  | enumValue
  deriving DecidableEq, Repr

/-- The value of an entry: a known text, a parameter of the function, or the schema version. -/
inductive Expression where
  | literal (text : String)
  | parameter (identifier : String) (type : ParameterType) (conversion : Conversion)
  | schemaVersion
  deriving DecidableEq, Repr

/-- One entry of a record. The key is a text, but for a key of the metadata that the conventions
do not give as one. -/
structure Entry where
  key : Json
  value : Expression
  deriving DecidableEq, Repr

/-- A named record of strings, in the order in which it is written. -/
structure EventRecord where
  name : String
  entries : List Entry := []
  deriving DecidableEq, Repr

/-- The keys of a record, in order. -/
def EventRecord.keys (r : EventRecord) : List Json := r.entries.map (·.key)

/-- The value of the first entry with a text as its key. -/
def EventRecord.get? (r : EventRecord) (key : String) : Option Expression :=
  (r.entries.find? (·.key = .str key)).map (·.value)

/-- A parameter of a function; `defaultName` is the reserved name whose provider supplies the
default. -/
structure ParameterDefinition where
  identifier : String
  name : String
  type : ParameterType
  description : String := ""
  defaultName : Option String := none
  deriving DecidableEq, Repr

/-- Has the parameter a default? -/
def ParameterDefinition.hasDefault (p : ParameterDefinition) : Bool := p.defaultName.isSome

/-- The function of an event. -/
structure EventFunction where
  identifier : String
  description : String
  eventId : Int
  parameters : List ParameterDefinition
  business : EventRecord
  publish : Option EventRecord := none
  consumerTags : Option (List String) := none
  deriving DecidableEq, Repr

/-- A constant of an enumeration, with the string of the schema. -/
structure EnumConstant where
  identifier : String
  value : String
  deriving DecidableEq, Repr

/-- The enumeration of a type. -/
structure Enumeration where
  identifier : String
  constants : List EnumConstant
  valueField : Json := .str "value"
  deriving DecidableEq, Repr

/-- All that one generated file holds, in the order in which it is written. -/
structure SourceFile where
  headerLines : List String
  objectName : Json
  functions : List EventFunction
  enums : List Enumeration
  /-- The version of the schema, when the records carry it. -/
  schemaVersion : Option String := none
  deriving DecidableEq, Repr

/-- Does any function have a parameter with a default? -/
def SourceFile.hasDefaults (s : SourceFile) : Bool :=
  s.functions.any fun f => f.parameters.any (·.hasDefault)

end TrackingPlan
