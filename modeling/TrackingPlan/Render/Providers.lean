import TrackingPlan.Json.Table
import TrackingPlan.Render.Error
import TrackingPlan.Settings.Meaning

/-!
# Providers of defaults

A parameter with a default takes it from a provider, an expression of the target language that
is looked up by the name of the parameter. The settings of the language may replace and add
providers, as an object or as a list of pairs.

Key definitions: `Providers`, `Providers.expression`, `Providers.ofLanguage`.
-/

namespace TrackingPlan

/-- The expression for each reserved name. -/
abbrev Providers := Table

namespace Providers

/-- The providers that pair names with texts. -/
def ofTexts (pairs : List (String × String)) : Providers :=
  pairs.map fun (name, text) => (.str name, .str text)

/-- The expression that provides the default of a parameter. -/
def expression (p : Providers) (name : String) : Except GenerationError Json :=
  match Table.lookup? p name with
  | some e => .ok e
  | none => .error (.noProvider name)

/-- The providers under the settings of the language. -/
def ofLanguage (defaults : Providers) (language : Assoc Json) : Except ConfigError Providers :=
  match Assoc.get? language "default_providers" with
  | none => .ok defaults
  | some (.obj members) => .ok (Table.update defaults (Table.ofMembers members))
  | some (.str "") => .ok defaults
  | some (.arr items) => match Table.ofItems? items with
    | some pairs => .ok (Table.update defaults pairs)
    | none => .error (.unusable "default_providers")
  | some _ => .error (.unusable "default_providers")

end Providers
end TrackingPlan
