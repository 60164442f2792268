import TrackingPlan.Json.Display
import TrackingPlan.Settings.Basic
import TrackingPlan.Text.Identifier

/-!
# What settings mean

The options that a configuration stands for. A switch is on when its value counts as set; every
other value is taken as it is.

Key definitions: `Settings.options`, `Settings.language`, `Settings.warnings`.
-/

namespace TrackingPlan
namespace Settings

/-- The value that an object holds under a name, or the default when it holds none. -/
def valueAt (members : Assoc Json) (name : String) (default : Json) : Json :=
  (members.get? name).getD default

/-- The strings among the items of a list. -/
def stringsOf : Json → List String
  | .arr items => items.filterMap fun
    | .str s => some s
    | _ => none
  | _ => []

/-- The conventions that an object stands for. -/
def conventionsOf (members : Assoc Json) : Conventions where
  eventTypeParameter := Json.member members "event_type_parameter"
  defaultedParameters := stringsOf (Json.member members "defaulted_parameters")
  businessEventIdKey := Json.member members "business_event_id_key"
  businessSchemaVersionKey := Json.member members "business_schema_version_key"
  publishEventIdKey := Json.member members "publish_event_id_key"
  publishSchemaVersionKey := Json.member members "publish_schema_version_key"
  consumerTagMarker := Json.member members "consumer_tag_marker"
  enumValueField := Json.member members "enum_value_field"

/-- The options that a configuration stands for. -/
def options (s : Settings) : Options where
  outputFile := s.get "output_file"
  outputClassName := s.get "output_class_name"
  packageName := s.get "package_name"
  includeSchemaMetadata := (s.get "include_schema_metadata").isTruthy
  requirePublishEvent := (s.get "require_publish_event").isTruthy
  strictIdentifiers := (s.get "strict_identifiers").isTruthy
  addComments := (s.get "add_comments").isTruthy
  conventions := match s.get "conventions" with
    | .obj members => .ok (conventionsOf members)
    | v => .error v

/-- The settings of the language, when all their names are texts. -/
def language (s : Settings) : Except ConfigError (Assoc Json) :=
  match s.languageTable, s.get "language_config" with
  | none, .obj members => .ok members
  | _, _ => .error (.unusable "language_config")

/-- Is the text a package name: identifiers with points between them? -/
def isPackageName (name : List Char) : Bool := (name.splitOn '.').all Text.isIdentifier

/-- The text of a setting whose value is meant to be a text. -/
def textOf (key : String) : Json → Except ConfigError String
  | .str s => .ok s
  | _ => .error (.unusable key)

/-- What is wrong with the names of a configuration for a language. -/
def warnings (s : Settings) (language : String) : Except ConfigError (List String) := do
  let className ← textOf "output_class_name" (s.get "output_class_name")
  let classWarnings :=
    if Text.isIdentifier className.toList then []
    else ["Invalid output class name: " ++ className]
  if language ≠ "kotlin" then return classWarnings
  let packageName := s.get "package_name"
  if packageName.isTruthy then
    let name ← textOf "package_name" packageName
    if isPackageName name.toList then return classWarnings
    else return classWarnings ++ ["Invalid Kotlin package name: " ++ name]
  else match packageName.display? with
    | some shown => return classWarnings ++ ["Invalid Kotlin package name: " ++ shown]
    | none => throw (.unusable "package_name")

end Settings
end TrackingPlan
