import TrackingPlan.CommandLine.Arguments
import TrackingPlan.Generator.Outcome
import TrackingPlan.Transfer.File

/-!
# Sessions

A session does what a command line asks for: it lists the languages, or it loads a document and
writes the code for it. It sees the files and the reply to its one request, and it leaves an
exit code, what it has printed and logged, and the files after it.

Key definitions: `Printed`, `Report`, `SessionError`, `run`, `main`.
-/

namespace TrackingPlan
namespace CommandLine

/-- One thing that is printed. -/
inductive Printed where
  | line (text : String)
  | code (text language : String)
  | table (title : String) (columns : List String) (rows : List (List String))
  | panel (title text : String)
  deriving DecidableEq, Repr

/-- What a session leaves. -/
structure Report where
  exit : Nat
  printed : List Printed := []
  log : List LogLine := []
  requests : List Request := []
  files : FileTree

/-- The line about an error without a text of its own. -/
def unexpected : Printed := .line "[red]✗ Unexpected error:[/red]"

/-- Why a session has come to no result. -/
inductive SessionError where
  | unsupportedLanguage (language : String) (supported : List String)
  | filenameWithStdout
  | timeoutNotPositive
  | noOutputDirectory (path : String)
  /-- An option has lost the value that is needed, or has one that cannot be looked up. -/
  | unusableOption
  | config (e : ConfigError)
  | registry (e : RegistryError)
  | file (e : FileError)
  | download (e : DownloadError)
  | schema (e : SchemaError)
  | output (e : OutputError)
  deriving DecidableEq, Repr

namespace SessionError

/-- The text of a session error, as far as it has one of its own. -/
def message? : SessionError → Option String
  | unsupportedLanguage language supported =>
    some ("Unsupported language '" ++ language ++ "'. Supported languages: " ++
      ", ".intercalate supported)
  | filenameWithStdout => some "--stdout cannot be combined with --output-filename"
  | timeoutNotPositive => some "--timeout must be a positive number of seconds"
  | noOutputDirectory path => some ("Output directory does not exist: " ++ path)
  | unusableOption => none
  | config e => e.message?
  | registry e => some e.message
  | file e => e.message?
  | download e => e.message?
  | schema e => e.message?
  | output e => e.message?

/-- The hint that follows when the service cannot be reached. -/
def hint : SessionError → List Printed
  | download e =>
    if e.isConnectivity then
      [.line "[yellow]Please make sure you are connected to the Trafi VPN[/yellow]"]
    else []
  | _ => []

/-- What is printed about a session error. -/
def printed (e : SessionError) : List Printed :=
  match e.message? with
  | some text => .line ("[red]✗ Error:[/red] " ++ text) :: e.hint
  | none => [unexpected]

/-- What a session error leaves in the log. -/
def log : SessionError → List LogLine
  | file e => e.log
  | download e => e.log
  | output e => e.log
  | _ => []

end SessionError

/-- The report of a session that has come to no result and has changed no file. -/
def Report.failed (files : FileTree) (e : SessionError) (log : List LogLine := [])
    (requests : List Request := []) : Report :=
  { exit := 1, printed := e.printed, log := log ++ e.log, requests, files }

/-- The value of an option that is needed. -/
def needed {α : Type} : Option α → Except SessionError α
  | some value => .ok value
  | none => .error .unusableOption

/-- Refuses an output path that is no directory. -/
def checkOutputPath (path : String) (files : FileTree) : Except SessionError Unit :=
  match files.isDirectory (PathName.ofString path) with
  | .ok true => .ok ()
  | .ok false => .error (.noOutputDirectory path)
  | .error _ => .error .unusableOption

/-- Refuses arguments that cannot work, and gives the language of those that can. -/
def checkArguments (a : Arguments) (files : FileTree) : Except SessionError String := do
  let language ← needed a.language
  if !Registry.builtin.supports language then
    throw (.unsupportedLanguage language Registry.builtin.languageNames)
  if a.toStdout && a.outputFilename ≠ "" then throw .filenameWithStdout
  let timeout ← needed a.timeout
  if timeout.atMostZero then throw .timeoutNotPositive
  if !a.toStdout then checkOutputPath (← needed a.outputPath) files
  return language

/-- What the arguments say about the configuration. -/
def overrides (a : Arguments) : Assoc Json :=
  (if a.className = "" then [] else [("output_class_name", .str a.className)]) ++
  (if a.outputFilename = "" then [] else [("output_file", .str a.outputFilename)]) ++
  (if a.noSchemaMetadata then [("include_schema_metadata", .bool false)] else []) ++
  (if a.requireEventType then [("require_publish_event", .bool true)] else []) ++
  (if a.strictIdentifiers then [("strict_identifiers", .bool true)] else [])

section Course

variable [Depths]

/-- The configuration of a session, with what is wrong with its names. -/
def sessionSettings (a : Arguments) (language : String) (files : FileTree) :
    Except SessionError (Settings × List LogLine) := do
  let language ← (Registry.builtin.resolve language).mapError .registry
  let settings ← (Settings.forLanguage files language (overrides a) a.config).mapError .config
  let warnings ← (settings.warnings language).mapError .config
  return (settings, warnings.map fun text => ⟨.warning, text⟩)

/-- What a session works with. -/
structure Preparation where
  language : String
  settings : Settings
  log : List LogLine

/-- The language and the configuration of a session. -/
def prepare (a : Arguments) (files : FileTree) : Except SessionError Preparation := do
  let language ← checkArguments a files
  let (settings, log) ← sessionSettings a language files
  return { language, settings, log }

/-- The document of a session, with the requests that were made for it. -/
def fetchDocument (a : Arguments) (files : FileTree) (reply : Reply) :
    Except SessionError Json × List Request :=
  if a.schemaFile ≠ "" then ((readDocument files a.schemaFile).mapError .file, [])
  else match a.baseUrl, a.timeout with
    | some baseUrl, some timeout =>
      let d := download reply a.project a.version baseUrl timeout
      (d.result.mapError .download, [d.request])
    | _, _ => (.error .unusableOption, [])

/-- The table that describes a run, if all of it can be written. -/
def metadataTable? (m : Metadata) : Option Printed := do
  return .table "📊 Generation Metadata" ["Property", "Value"] [
    ["Language", m.target.name],
    ["File Extension", m.target.extension],
    ["Output Class Name", ← m.outputClassName.display?],
    ["Include Schema Metadata", ← m.includeSchemaMetadata.display?],
    ["Project Id", m.projectId],
    ["Version Number", ← integerText? m.versionNumber],
    ["Event Count", toString m.eventCount],
    ["Enum Count", toString m.enumCount]]

/-- What is printed about the warnings of a run. -/
def warningLines (output : Output) : List Printed :=
  if output.warnings.isEmpty then []
  else .line "\n[yellow]⚠️  Warnings:[/yellow]" :: output.warnings.filterMap fun w =>
    w.text?.map fun text => .line ("  [yellow]•[/yellow] " ++ text)

/-- What is printed after the code: the description of the run when it is asked for, and the
warnings. -/
def afterwords? (a : Arguments) (output : Output) : Option (List Printed) :=
  if a.verbose then (metadataTable? output.metadata).map fun table =>
    .line "" :: table :: warningLines output
  else some (warningLines output)

/-- The report of a session whose code has come to where it is wanted, which is announced first. -/
def conclude (a : Arguments) (files : FileTree) (announcement : Printed) (output : Output)
    (log : List LogLine) (requests : List Request) : Report :=
  match afterwords? a output with
  | some rest => { exit := 0, printed := announcement :: rest, log, requests, files }
  | none => { exit := 1, printed := [announcement, unexpected], log, requests, files }

/-- The path of the file that the code of a session was written to, and the files after it. The
configuration may name the file by a value that is no text. -/
def writeOutput (a : Arguments) (files : FileTree) (filename : Json) (code : String) :
    Except SessionError (PathName × FileTree) := do
  let directory ← needed a.outputPath
  match filename with
  | .str name => (writeCode files code directory name).mapError .output
  | _ => throw (.config (.unusable "output_file"))

/-- The report of a session whose run has given code. -/
def deliver (a : Arguments) (files : FileTree) (target : Target) (filename : Json)
    (output : Output) (log : List LogLine) (requests : List Request) : Report :=
  if a.toStdout then conclude a files (.code output.code target.name) output log requests
  else
    match writeOutput a files filename output.code with
    | .error e => .failed files e log requests
    | .ok (path, files) =>
      conclude a files (.line ("[green]✓[/green] Generated " ++ target.name ++
        " code saved to [cyan]" ++ path.text ++ "[/cyan]")) output log requests

/-- The report of a session that writes code. -/
def generateCode (a : Arguments) (files : FileTree) (reply : Reply) : Report :=
  match prepare a files with
  | .error e => .failed files e
  | .ok { language, settings, log } =>
    match Registry.builtin.create files language (.complete settings) with
    | .error e => .failed files (.registry e) log
    | .ok g =>
      match fetchDocument a files reply with
      | (.error e, requests) => .failed files e log requests
      | (.ok document, requests) =>
        match (Document.value document).load with
        | .error e => .failed files (.schema e) log requests
        | .ok schema =>
          let outcome := (g.run schema).1
          let log := log ++ outcome.log
          match outcome with
          | .failure message _ =>
            { exit := 1, log, requests, files
              printed := [.line ("[red]✗ Code generation failed:[/red] " ++ message)] }
          | .success output => deliver a files g.target g.outputFilename output log requests

/-- The row of a language in the list. -/
def languageRow (r : Registry) (language : String) : List (List String) :=
  match r.info language with
  | .error _ => []
  | .ok info => match info.outputFilename with
    | .str filename => [[
        "🔧 " ++ language, info.target.extension, filename, info.target.generatorName,
        if info.aliases.isEmpty then "[dim]none[/dim]" else ", ".intercalate info.aliases]]
    | _ => []

/-- The list of the languages. -/
def languageList (r : Registry) : List Printed := [
  .line "",
  .table "📋 Supported Languages"
    ["Language", "Extension", "Default File", "Generator Class", "Aliases"]
    (r.languageNames.flatMap (languageRow r)),
  .line "",
  .panel "💡 Quick Start"
    ("[bold]Usage:[/bold] mammoth-codegen --project [dim]PROJECT[/dim] " ++
      "--language [cyan]LANGUAGE[/cyan]")]

/-- The report of a session. -/
def run (a : Arguments) (files : FileTree) (reply : Reply) : Report :=
  if a.listLanguages then { exit := 0, printed := languageList Registry.builtin, files }
  else generateCode a files reply

/-- The report of a command line; one that cannot be read has exit code 2. -/
def runArguments (args : List String) (files : FileTree) (reply : Reply) : Report :=
  match parseArguments args with
  | .accepted a => run a files reply
  | .help => { exit := 0, files }
  | .usageError => { exit := 2, files }

end Course

end CommandLine
end TrackingPlan
