import TrackingPlan.Json.Printer

/-!
# Options

What a run of the generator is told: how the generated file is named, which checks are made,
and which names the schema and the generated code have agreed on. A name is meant to be a text;
where it is another value, that value is kept, and each place that needs a text of it decides.

Key definitions: `Conventions`, `Options`.
-/

namespace TrackingPlan

/-- The names that have a fixed meaning in a schema or in the generated code. -/
structure Conventions where
  /-- The value of an event that names its published record. -/
  eventTypeParameter : Json := .str "event_type"
  /-- Parameters that have a default, which the surroundings of the call provide. -/
  defaultedParameters : List String := ["screen_name", "previous_screen_name", "modal_name"]
  businessEventIdKey : Json := .str "schema_event_id"
  businessSchemaVersionKey : Json := .str "schema_version"
  publishEventIdKey : Json := .str "achievement_id"
  publishSchemaVersionKey : Json := .str "score"
  /-- Tags whose class holds this text, in any case, name explicit consumers. -/
  consumerTagMarker : Json := .str "Sdk"
  /-- The field of a generated enumeration that holds the string of the schema. -/
  enumValueField : Json := .str "value"
  deriving DecidableEq, Repr

/-- The options of a run. -/
structure Options where
  outputFile : Json := .null
  outputClassName : Json := .str "AnalyticsEvent"
  packageName : Json := .str "com.trafi.analytics"
  includeSchemaMetadata : Bool := true
  requirePublishEvent : Bool := false
  strictIdentifiers : Bool := false
  addComments : Bool := true
  /-- The conventions, or the value that stands where they should be. -/
  conventions : Except Json Conventions := .ok {}
  deriving Repr

end TrackingPlan
