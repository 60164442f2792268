import TrackingPlan.Render.Providers

/-!
# The names that generated Kotlin uses

Key definitions: `Style`, `Style.ofLanguage`, `typeWord`.
-/

namespace TrackingPlan
namespace Kotlin

/-- The types and arguments of the runtime that the code is written for. Each of them is meant
to be a text; any other value is written as it is shown to people. -/
structure Style where
  dualEventType : Json := .str "Analytics.Event"
  rawEventType : Json := .str "RawEvent"
  schemaVersionConstant : Json := .str "mammothSchemaVersion"
  businessArgument : Json := .str "business"
  publishArgument : Json := .str "publish"
  consumerTagsArgument : Json := .str "explicitConsumerTags"
  providers : Providers := .ofTexts [
    ("screen_name", "Analytics.currentScreenName"),
    ("previous_screen_name", "Analytics.previousScreenName"),
    ("modal_name", "Analytics.currentModalName")]
  deriving DecidableEq, Repr

/-- The names under the settings of the language. -/
def Style.ofLanguage (language : Assoc Json) : Except ConfigError Style := do
  if Assoc.has language "self" then throw (.unusable "self")
  let default : Style := {}
  let value := Settings.valueAt language
  return {
    dualEventType := value "dual_event_type" default.dualEventType
    rawEventType := value "raw_event_type" default.rawEventType
    schemaVersionConstant := value "schema_version_constant" default.schemaVersionConstant
    businessArgument := value "business_argument" default.businessArgument
    publishArgument := value "publish_argument" default.publishArgument
    consumerTagsArgument := value "consumer_tags_argument" default.consumerTagsArgument
    providers := ← default.providers.ofLanguage language }

/-- The type of a primitive parameter. -/
def typeWord : Primitive → String
  | .string => "String"
  | .integer => "Int"
  | .boolean => "Boolean"

end Kotlin
end TrackingPlan
