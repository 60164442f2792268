import TrackingPlan.Json.Table
import TrackingPlan.Options

/-!
# Settings

Settings are what a configuration says, as the JSON values that it says it with. They always
hold the same nine entries in the same order; a configuration that leaves one out gets the
default. The entry for the conventions is an object with all eight conventions, and the entry
for the language is an object with whatever the target language asks for. Where the language is
given as a list of pairs its names need not be texts; the entry then shows them as texts, and the
names themselves are kept beside it.

Key definitions: `Settings`, `Options.toSettings`, `Settings.merge`, `Settings.assemble`,
`Settings.same`.
-/

namespace TrackingPlan

/-- Why a configuration cannot be used or kept. -/
inductive ConfigError where
  | fileNotFound (path : String)
  | notJsonName (path : String)
  | invalidJson (path : String)
  | unreadable (path : String)
  | notAnObject (path : String)
  | unknownConventions (names : List String)
  | notSaved (path : String)
  /-- The path leads nowhere, or its file is no UTF-8 text or goes beyond the limits of JSON. -/
  | unusablePath (path : String)
  /-- A string in the file is no text of characters. -/
  | loneHalf (path : String)
  /-- The value of a setting is of a kind that has no meaning there. -/
  | unusable (setting : String)
  deriving DecidableEq, Repr

/-- The text of a configuration error; the last three kinds have none of their own. -/
def ConfigError.message? : ConfigError → Option String
  | fileNotFound path => some ("Configuration file not found: " ++ path)
  | notJsonName path => some ("Configuration file must be JSON: " ++ path)
  | invalidJson path => some ("Invalid JSON in configuration file " ++ path)
  | unreadable path => some ("Failed to load configuration file " ++ path)
  | notAnObject path => some ("Configuration file must contain a JSON object: " ++ path)
  | unknownConventions names =>
    some ("Unknown convention settings: " ++ ", ".intercalate names)
  | notSaved path => some ("Failed to save configuration to " ++ path)
  | unusablePath _ => none
  | loneHalf _ => none
  | unusable _ => none

/-- The conventions as the members of an object. -/
def Conventions.members (c : Conventions) : Assoc Json := [
  ("event_type_parameter", c.eventTypeParameter),
  ("defaulted_parameters", .arr (c.defaultedParameters.map .str)),
  ("business_event_id_key", c.businessEventIdKey),
  ("business_schema_version_key", c.businessSchemaVersionKey),
  ("publish_event_id_key", c.publishEventIdKey),
  ("publish_schema_version_key", c.publishSchemaVersionKey),
  ("consumer_tag_marker", c.consumerTagMarker),
  ("enum_value_field", c.enumValueField)]

/-- A complete configuration. The table holds the settings of the language under their own
names when these are not all texts. -/
structure Settings where
  entries : Assoc Json
  languageTable : Option Table := none

/-- The settings that say what the options say, with the given settings of the language. -/
def Options.toSettings (o : Options) (language : Assoc Json := []) : Settings where
  entries := [
    ("output_file", o.outputFile),
    ("output_class_name", o.outputClassName),
    ("package_name", o.packageName),
    ("include_schema_metadata", .bool o.includeSchemaMetadata),
    ("require_publish_event", .bool o.requirePublishEvent),
    ("strict_identifiers", .bool o.strictIdentifiers),
    ("add_comments", .bool o.addComments),
    ("conventions", match o.conventions with
      | .ok c => .obj c.members
      | .error v => v),
    ("language_config", .obj language)]

namespace Settings

/-- The settings of a configuration that says nothing. -/
def default : Settings := ({} : Options).toSettings

/-- The value of a setting. -/
def get (s : Settings) (key : String) : Json := Json.member s.entries key

/-- Do two configurations say the same? -/
def same (a b : Settings) : Bool :=
  match a.languageTable, b.languageTable with
  | none, none => Json.same (.obj a.entries) (.obj b.entries)
  | some x, some y => x.same y &&
    Json.same (.obj (Assoc.erase a.entries "language_config"))
      (.obj (Assoc.erase b.entries "language_config"))
  | _, _ => false

/-- One member of a configuration put over those before it: objects with settings of the
language are joined member by member, any other value replaces the one before. -/
def mergeOne (base : Assoc Json) (key : String) (value : Json) :
    Except ConfigError (Assoc Json) :=
  match value with
  | .obj language =>
    if key = "language_config" then
      match base.get? key with
      | none => .ok (base.set key (.obj language))
      | some (.obj before) => .ok (base.set key (.obj (Assoc.update before language)))
      | some _ => .error (.unusable key)
    else .ok (base.set key value)
  | _ => .ok (base.set key value)

/-- A configuration put over another one. -/
def merge (base : Assoc Json) : Assoc Json → Except ConfigError (Assoc Json)
  | [] => .ok base
  | (key, value) :: rest => do merge (← mergeOne base key value) rest

/-- The order of names. -/
def nameOrder (a b : String) : Bool := decide (a ≤ b)

/-- All conventions, as far as an object sets them. -/
def conventions (members : Assoc Json) : Except ConfigError (Assoc Json) :=
  let defaults := ({} : Conventions).members
  match members.keys.filter (fun k => !defaults.has k) with
  | [] =>
    match members.get? "defaulted_parameters" with
    | none => .ok (defaults.update members)
    | some v => match v.elements? with
      | some items => .ok ((defaults.update members).set "defaulted_parameters" (.arr items))
      | none => .error (.unusable "defaulted_parameters")
  | unknown => .error (.unknownConventions (unknown.mergeSort nameOrder))

/-- The settings of the language: those under their own key, then the members that are no
setting of the generator. -/
def languageEntry (known unknown : Assoc Json) : Except ConfigError Settings :=
  match unknown with
  | [] => .ok ⟨known, none⟩
  | _ => match Table.ofValue? ((known.get? "language_config").getD .null) with
    | none => .error (.unusable "language_config")
    | some before =>
      let language := Table.update before (Table.ofMembers unknown)
      .ok ⟨known.set "language_config" (.obj (Table.written language)),
        if (Table.members? language).isSome then none else some language⟩

/-- The complete configuration of the members that are set. -/
def assemble (members : Assoc Json) : Except ConfigError Settings := do
  let known := members.filter fun p => default.entries.has p.1
  let unknown := members.filter fun p => !default.entries.has p.1
  let s ← languageEntry known unknown
  match s.entries.get? "conventions" with
  | some (.obj c) =>
    let c ← conventions c
    return { s with entries := default.entries.update (s.entries.set "conventions" (.obj c)) }
  | _ => return { s with entries := default.entries.update s.entries }

end Settings
end TrackingPlan
