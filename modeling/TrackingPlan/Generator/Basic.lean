import TrackingPlan.Kotlin.Printer
import TrackingPlan.Python.Printer

/-!
# Generators

A generator writes the source file of a schema in one target language under one configuration.
The plain target writes the head of the file only. A generator for Python carries the scopes
that it takes names from; every module clears them before it takes the first name.

Key definitions: `Target`, `Generator`, `Generator.create`, `Generator.generate`,
`Generator.warnings`.
-/

namespace TrackingPlan

/-- The languages in which a generator can write. -/
inductive Target where
  | plain
  | kotlin
  | python
  deriving DecidableEq, Repr

namespace Target

/-- The name of the language. -/
def name : Target → String
  | plain => "plain"
  | kotlin => "kotlin"
  | python => "python"

/-- The end of the names of generated files. -/
def extension : Target → String
  | plain => ".txt"
  | kotlin => ".kt"
  | python => ".py"

/-- The name of the generator in listings. -/
def generatorName : Target → String
  | plain => "PlainGenerator"
  | kotlin => "KotlinGenerator"
  | python => "PythonGenerator"

/-- The name of a generated file when the configuration has none. -/
def filename : Target → String
  | plain => "MammothEvents.txt"
  | kotlin => "MammothEvents.kt"
  | python => "mammoth_events.py"

end Target

/-- What a target needs besides the options. -/
inductive Emitter where
  | plain
  | kotlin (style : Kotlin.Style)
  | python (style : Python.Style) (scopes : Python.Scopes)
  deriving DecidableEq, Repr

/-- The target of an emitter. -/
def Emitter.target : Emitter → Target
  | plain => .plain
  | kotlin _ => .kotlin
  | python _ _ => .python

/-- A generator. -/
structure Generator where
  settings : Settings
  emitter : Emitter
  templates : TemplateSet

namespace Generator

/-- A new generator for a target under a configuration. -/
def create (target : Target) (settings : Settings) : Except ConfigError Generator :=
  match target with
  | .plain => .ok { settings, emitter := .plain, templates := .stored [] }
  | .kotlin => do
    let style ← Kotlin.Style.ofLanguage (← settings.language)
    return { settings, emitter := .kotlin style, templates := .builtin Kotlin.layoutNames }
  | .python => do
    let style ← Python.Style.ofLanguage (← settings.language)
    return { settings, emitter := .python style {}, templates := .builtin Python.layoutNames }

/-- The target of a generator. -/
def target (g : Generator) : Target := g.emitter.target

/-- The options that the configuration of the generator stands for. -/
def options (g : Generator) : Options := g.settings.options

/-- The name of the file to write; a configured one may be any value that counts as set. -/
def outputFilename (g : Generator) : Json :=
  let configured := g.settings.get "output_file"
  if configured.isTruthy then configured else .str g.target.filename

/-- The settings of the language that people are shown. -/
def shownSettings (g : Generator) : Assoc Json :=
  match g.emitter with
  | .plain => []
  | .kotlin style => [
      ("package_name", g.settings.get "package_name"),
      ("dual_event_type", style.dualEventType), ("raw_event_type", style.rawEventType)]
  | .python style _ => [
      ("runtime_module", style.runtimeModule),
      ("dual_event_type", style.dualEventType), ("raw_event_type", style.rawEventType)]

/-- The generator with a template stored. -/
def addTemplate (g : Generator) (name content : String) : Generator :=
  { g with templates := g.templates.store name content }

/-- The text of a source file, and the generator after writing it. -/
def render (g : Generator) (source : SourceFile) : Except GenerationError String × Generator :=
  match g.emitter with
  | .plain => (.ok (Layout.block source.headerLines), g)
  | .kotlin style => ((Kotlin.File.ofSource g.options style source).print style g.templates, g)
  | .python style scopes =>
    match style.moduleNames source.objectName with
    | .error e => (.error e, g)
    | .ok taken =>
      let (m, scopes) := Python.Module.ofSource g.options style taken source scopes
      (m.print style g.templates, { g with emitter := .python style scopes })

/-- The text of the source file of a schema, and the generator after writing it. -/
def generate (g : Generator) (schema : Schema) : Except GenerationError String × Generator :=
  match schema.toSource g.options with
  | .error e => (.error (.build e), g)
  | .ok source => g.render source

/-- The warnings of the language about a schema. -/
def languageWarnings (g : Generator) (schema : Schema) : Except GenerationError (List Warning) :=
  match g.emitter with
  | .python style _ => Python.renameWarnings g.options style schema
  | _ => .ok []

/-- The warnings about a schema. Each of the general ones has to have a text, which hangs on the
name of the object. -/
def warnings (g : Generator) (schema : Schema) : Except GenerationError (List Warning) := do
  let general ← (schema.warnings g.options).mapError .build
  if general.any (·.text?.isNone) then throw (.unusable "output_class_name")
  return general ++ (← g.languageWarnings schema)

end Generator
end TrackingPlan
