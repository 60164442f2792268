import TrackingPlan.Log
import TrackingPlan.Registry
import TrackingPlan.Schema.Document

/-!
# Runs of a generator

A run ends in code with its warnings and a description, or in a failure, and then there is no
code at all. A run can start from a generator and a schema, or from a document, a language and a
configuration, in which case nothing that goes wrong escapes the outcome.

Key definitions: `Metadata`, `Outcome`, `Generator.run`, `generateText`, `generateFromDocument`.
-/

namespace TrackingPlan

/-- Why a run has failed. -/
inductive Failure where
  | schema (e : SchemaError)
  | registry (e : RegistryError)
  | generation (e : GenerationError)
  deriving DecidableEq, Repr

/-- What a run was about. -/
structure Metadata where
  target : Target
  outputClassName : Json
  includeSchemaMetadata : Json
  projectId : String
  versionNumber : Int
  eventCount : Nat
  enumCount : Nat
  deriving DecidableEq, Repr

/-- What a successful run gives. -/
structure Output where
  code : String
  warnings : List Warning
  metadata : Metadata
  deriving DecidableEq, Repr

/-- The end of a run. -/
inductive Outcome where
  | success (output : Output)
  | failure (message : String) (cause : Failure)
  deriving DecidableEq, Repr

namespace Outcome

/-- The code of a run; a failed one has none. -/
def code : Outcome → String
  | success output => output.code
  | failure _ _ => ""

/-- The warnings of a run; a failed one has none. -/
def warnings : Outcome → List Warning
  | success output => output.warnings
  | failure _ _ => []

/-- What a successful run was about. -/
def metadata? : Outcome → Option Metadata
  | success output => some output.metadata
  | failure _ _ => none

/-- The message of a failed run. -/
def message? : Outcome → Option String
  | success _ => none
  | failure message _ => some message

/-- The cause of a failed run. -/
def cause? : Outcome → Option Failure
  | success _ => none
  | failure _ cause => some cause

/-- The log of a run that has got as far as a generator. -/
def log : Outcome → List LogLine
  | success output => output.warnings.filterMap fun w => w.text?.map fun text => ⟨.warning, text⟩
  | failure message _ => [⟨.error, message⟩]

/-- The failure of a run in its generator. -/
def ofError (e : GenerationError) : Outcome :=
  failure ("Code generation failed" ++ (match e.message? with
    | some text => ": " ++ text
    | none => "")) (.generation e)

end Outcome

/-- What a run for a schema is about, with the settings as they are configured. -/
def Metadata.of (target : Target) (settings : Settings) (schema : Schema) : Metadata where
  target := target
  outputClassName := settings.get "output_class_name"
  includeSchemaMetadata := settings.get "include_schema_metadata"
  projectId := schema.projectId
  versionNumber := schema.versionNumber
  eventCount := schema.events.length
  enumCount := schema.enumTypes.length

/-- A run for a schema: the tidied code with the warnings, and the generator after it. -/
def Generator.run (g : Generator) (schema : Schema) : Outcome × Generator :=
  match g.warnings schema with
  | .error e => (.ofError e, g)
  | .ok warnings =>
    match g.generate schema with
    | (.error e, g) => (.ofError e, g)
    | (.ok code, g) => (.success {
        code := Layout.tidy code
        warnings
        metadata := .of g.target g.settings schema }, g)

/-- The overrides of a run that is told a class name and the metadata switch. -/
def textOverrides (outputClassName includeSchemaMetadata : Json) : Assoc Json := [
  ("output_class_name", outputClassName), ("include_schema_metadata", includeSchemaMetadata)]

variable [Depths]

/-- The tidied code for a schema in a built-in language. -/
def generateText (schema : Schema) (outputClassName : Json := .str "AnalyticsEvent")
    (includeSchemaMetadata : Json := .bool true) (language : String := "kotlin") :
    Except Failure String := do
  let g ← (Registry.builtin.create {} language
    (.overrides (textOverrides outputClassName includeSchemaMetadata))).mapError .registry
  let code ← (g.generate schema).1.mapError .generation
  return Layout.tidy code

/-- A run for a document in a built-in language. A document that gives no schema for a reason
without a text gives no outcome either; nor does a configuration with a string that is no text of
characters. -/
def generateFromDocument (files : FileTree) (document : Document) (language : String := "kotlin")
    (config : ConfigSource := .standard) : Except SchemaError Outcome :=
  match document.load with
  | .error e => match e.message? with
    | some message => .ok (.failure message (.schema e))
    | none => .error e
  | .ok schema =>
    match Registry.builtin.create files language config with
    | .error e =>
      if e.isLoneHalf then .error .loneHalf else .ok (.failure e.message (.registry e))
    | .ok g => .ok (g.run schema).1

end TrackingPlan
