import TrackingPlan.Render.Providers

/-!
# The names that generated Python uses

The names of the runtime are meant to be texts, and any other value is written as it is shown to
people. A list or an object cannot be kept apart from other names, so a module cannot have one
as a name; and names that are imported together have to be of one kind to have an order.

Key definitions: `Style`, `Style.ofLanguage`, `Style.moduleNames`, `Style.runtimeImports`,
`typeWord`.
-/

namespace TrackingPlan
namespace Python

/-- The module and the types of the runtime that the code is written for. -/
structure Style where
  runtimeModule : Json := .str "analytics"
  dualEventType : Json := .str "DualEvent"
  rawEventType : Json := .str "RawEvent"
  contextType : Json := .str "AnalyticsContext"
  schemaVersionConstant : Json := .str "_SCHEMA_VERSION"
  businessArgument : Json := .str "business"
  publishArgument : Json := .str "publish"
  consumerTagsArgument : Json := .str "explicit_consumer_tags"
  providers : Providers := .ofTexts [
    ("screen_name", "AnalyticsContext.current_screen_name()"),
    ("previous_screen_name", "AnalyticsContext.previous_screen_name()"),
    ("modal_name", "AnalyticsContext.current_modal_name()")]
  deriving DecidableEq, Repr

namespace Style

/-- The names under the settings of the language. -/
def ofLanguage (language : Assoc Json) : Except ConfigError Style := do
  if Assoc.has language "self" then throw (.unusable "self")
  let default : Style := {}
  let value := Settings.valueAt language
  return {
    runtimeModule := value "runtime_module" default.runtimeModule
    dualEventType := value "dual_event_type" default.dualEventType
    rawEventType := value "raw_event_type" default.rawEventType
    contextType := value "context_type" default.contextType
    schemaVersionConstant := value "schema_version_constant" default.schemaVersionConstant
    businessArgument := value "business_argument" default.businessArgument
    publishArgument := value "publish_argument" default.publishArgument
    consumerTagsArgument := value "consumer_tags_argument" default.consumerTagsArgument
    providers := ← default.providers.ofLanguage language }

/-- The values without those that are the same as an earlier one. -/
def distinct (values : List Json) : List Json := values.eraseDupsBy fun a b => b.same a

/-- The order of texts. -/
def textOrder : Json → Json → Bool
  | .str a, .str b => Settings.nameOrder a b
  | _, _ => false

/-- A name put into others that are in their order, before those that it may stand before. -/
def insertName (order : Json → Json → Bool) (name : Json) : List Json → List Json
  | [] => [name]
  | first :: rest =>
    if order name first then name :: first :: rest else first :: insertName order name rest

/-- The names in their order; where it leaves the choice, they stand as they stood before. -/
def inOrder (order : Json → Json → Bool) (names : List Json) : List Json :=
  names.foldr (insertName order) []

/-- Distinct names in their order: texts by their characters, numbers by their values. A single
name needs no order. -/
def sorted? (names : List Json) : Option (List Json) :=
  if names.length ≤ 1 then some names
  else if names.all (·.kind = .text) then some (inOrder textOrder names)
  else if names.all (·.number?.isSome) then some (inOrder (fun a b => !b.isBelow a) names)
  else none

/-- The names imported from the runtime, in their order; the context only where it is used. -/
def runtimeImports (s : Style) (usesContext : Bool) : Except GenerationError (List Json) :=
  let names := [s.dualEventType, s.rawEventType] ++ if usesContext then [s.contextType] else []
  if names.any (·.isContainer) then .error (.unusable "runtime_imports")
  else match sorted? (distinct names) with
    | some names => .ok names
    | none => .error (.unusable "runtime_imports")

/-- The text of a name, if it is one; a list or an object is no name at all. -/
def nameText? : Json → Except GenerationError (Option String)
  | .str name => .ok (some name)
  | v => if v.isContainer then .error (.unusable "module_names") else .ok none

/-- The texts among the names that a module takes for itself, the class of the events last. -/
def moduleNames (s : Style) (objectName : Json) : Except GenerationError (List String) := do
  let names ← [.str "annotations", s.dualEventType, s.rawEventType, s.contextType,
    s.schemaVersionConstant, objectName].mapM nameText?
  return names.filterMap id

end Style

/-- The type of a primitive parameter. -/
def typeWord : Primitive → String
  | .string => "str"
  | .integer => "int"
  | .boolean => "bool"

/-- The type of a primitive parameter that may be left out. -/
def optionalType (type : String) : String := type ++ " | None"

end Python
end TrackingPlan
