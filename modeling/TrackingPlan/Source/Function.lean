import TrackingPlan.Naming.Camel
import TrackingPlan.Options
import TrackingPlan.Source.Basic
import TrackingPlan.Source.Error
import TrackingPlan.Text.Lines

/-!
# The function of an event

An event becomes a function that makes its business record: the values known in advance, then
the parameters, then the metadata. An event with an event type also has a published record,
which is named by the event type and uses the publish names as keys. Parameters with a default
come last. Without conventions no event can be built, which is noticed when they are asked for.

Key definitions: `Value.literal`, `Event.parameterDefinitions`, `Event.toFunction`.
-/

namespace TrackingPlan

open Naming

/-- The text of the single payload of a value. -/
def Value.literal (v : Value) : Except BuildError String :=
  match v.payloads with
  | [(_, some text)] => .ok text
  | [(_, none)] => .error .tooManyDigits
  | payloads => .error (.invalidValue v.parameter.name (payloads.map (·.1)))

/-- How the value of a parameter becomes a string. -/
def ParameterType.conversion : ParameterType → Conversion
  | .primitive .string => .identity
  | .primitive _ => .stringify
  | .named _ => .enumValue

/-- The reference to a parameter. -/
def Parameter.expression (p : Parameter) : Expression :=
  .parameter (parameterName p.name) p.type p.type.conversion

/-- The parameter of the function that a parameter of the event becomes. -/
def Parameter.definition (p : Parameter) (conventions : Conventions) : ParameterDefinition where
  identifier := parameterName p.name
  name := p.name
  type := p.type
  description := p.description
  defaultName := if p.name ∈ conventions.defaultedParameters then some p.name else none

namespace Event

/-- Refuses the first parameter that repeats a name, or an identifier, of those before it. -/
def checkParameters (event : String) (names identifiers : List String) :
    List Parameter → Except BuildError Unit
  | [] => .ok ()
  | p :: rest =>
    let identifier := parameterName p.name
    if p.name ∈ names then .error (.duplicateIdentifier (.parameters event) p.name)
    else if identifier ∈ identifiers then
      .error (.duplicateIdentifier (.parameters event) identifier)
    else checkParameters event (p.name :: names) (identifier :: identifiers) rest

/-- The string of the event type, if the event has one. -/
def eventType (event : Event) (conventions : Conventions) : Except BuildError (Option String) :=
  match event.values.filter fun v => .str v.parameter.name = conventions.eventTypeParameter with
  | [] => .ok none
  | [v] => match v.payloads with
    | [(.stringEnum, some text)] => .ok (some text)
    | _ => .error (.invalidEventType event.name .notAStringEnum)
  | _ => .error (.invalidEventType event.name .repeated)

/-- The text of the id, where the records carry it. -/
def idText (event : Event) (included : Bool) : Except BuildError (Option String) :=
  if included then (BuildError.integerText event.id).map some else .ok none

/-- The entries that say which event of which version a record comes from, where it carries the
text of the id. -/
def metadata (id : Option String) (idKey versionKey : Json) : List Entry :=
  match id with
  | some text => [⟨idKey, .literal text⟩, ⟨versionKey, .schemaVersion⟩]
  | none => []

/-- The values of the event with the text of each. -/
def literals (event : Event) : Except BuildError (List (Value × String)) :=
  event.values.mapM fun v => v.literal.map fun text => (v, text)

/-- The business record, from the values with their texts. -/
def businessRecord (event : Event) (id : Option String) (conventions : Conventions)
    (literals : List (Value × String)) : EventRecord where
  name := event.name
  entries :=
    (literals.map fun (v, text) => ⟨.str v.parameter.name, .literal text⟩) ++
    (event.parameters.map fun p => ⟨.str p.name, p.expression⟩) ++
    metadata id conventions.businessEventIdKey conventions.businessSchemaVersionKey

/-- The published record, from the values with their texts; the event type is its name and no
entry of it. -/
def publishRecord (event : Event) (id : Option String) (conventions : Conventions)
    (name : String) (literals : List (Value × String)) : EventRecord where
  name := name
  entries :=
    ((literals.filter fun (v, _) => .str v.parameter.name ≠ conventions.eventTypeParameter).map
      fun (v, text) => ⟨.str v.parameter.publishName, .literal text⟩) ++
    (event.parameters.map fun p => ⟨.str p.publishName, p.expression⟩) ++
    metadata id conventions.publishEventIdKey conventions.publishSchemaVersionKey

/-- The parameters of the function: those without a default, then those with one. -/
def parameterDefinitions (event : Event) (conventions : Conventions) :
    List ParameterDefinition :=
  let all := event.parameters.map (·.definition conventions)
  all.filter (!·.hasDefault) ++ all.filter (·.hasDefault)

/-- The names of the tags that are addressed to explicit consumers, if there are any. -/
def consumerTags (event : Event) (marker : String) : Option (List String) :=
  let marker := Text.lower marker.toList
  let addressed := event.tags.filter fun t =>
    Text.contains marker (Text.lower t.tagClass.toList)
  match addressed.map (·.name) with
  | [] => none
  | names => some names

/-- The text that marks the classes of tags for explicit consumers. -/
def tagMarker (conventions : Conventions) : Except BuildError String :=
  match conventions.consumerTagMarker with
  | .str marker => .ok marker
  | _ => .error (.unusable "consumer_tag_marker")

/-- Refuses an event without an event type when there has to be a published record. -/
def requireEventType (event : Event) (options : Options) (eventType : Option String) :
    Except BuildError Unit :=
  if eventType.isNone ∧ options.requirePublishEvent then .error (.missingEventType event.name)
  else .ok ()

/-- The function of the event under conventions. -/
def toFunctionUnder (event : Event) (options : Options) (conventions : Conventions) :
    Except BuildError EventFunction := do
  let eventType ← event.eventType conventions
  event.requireEventType options eventType
  let literals ← event.literals
  let id ← event.idText options.includeSchemaMetadata
  let marker ← tagMarker conventions
  return {
    identifier := functionName event.name
    description := event.description
    eventId := event.id
    parameters := event.parameterDefinitions conventions
    business := event.businessRecord id conventions literals
    publish := eventType.map fun name => event.publishRecord id conventions name literals
    consumerTags := event.consumerTags marker }

/-- The function of the event. -/
def toFunction (event : Event) (options : Options) : Except BuildError EventFunction := do
  checkParameters event.name [] [] event.parameters
  match options.conventions with
  | .ok conventions => event.toFunctionUnder options conventions
  | .error _ => do
    if event.values.isEmpty then event.requireEventType options none
    throw (.unusable "conventions")

end Event
end TrackingPlan
