import TrackingPlan.Generator.Basic
import TrackingPlan.Settings.Store

/-!
# The registry of generators

A registry knows generators by the name of their language and by aliases, in any case. A name
that is registered is left alone unless it is to be replaced, and then all aliases are looked at
before anything changes: none may be a language or belong to another one.

Key definitions: `Registry`, `Registry.register`, `Registry.unregister`, `Registry.resolve`,
`Registry.create`, `Registry.info`, `Registry.builtin`.
-/

namespace TrackingPlan

/-- What is registered: a target, or a generator that leaves its work undone. -/
inductive GeneratorClass where
  | target (t : Target)
  | unfinished
  deriving DecidableEq, Repr

/-- What someone asks to register. -/
inductive Candidate where
  | generator (c : GeneratorClass)
  | other
  deriving DecidableEq, Repr

/-- Why a registered generator cannot be made. -/
inductive CreationFault where
  | config (e : ConfigError)
  | unfinished
  deriving DecidableEq, Repr

/-- The text of the fault, as far as it has one of its own. -/
def CreationFault.message? : CreationFault → Option String
  | config e => e.message?
  | unfinished => none

/-- Why the registry refuses a request. -/
inductive RegistryError where
  | notAGenerator
  | aliasIsLanguage (name : String)
  | aliasTaken (name owner : String)
  | unknownLanguage (language : String) (available : List String)
  | invalidConfig (kind : Json.Kind)
  | notCreated (language : String) (fault : CreationFault)
  deriving DecidableEq, Repr

/-- The text of a refusal. -/
def RegistryError.message : RegistryError → String
  | notAGenerator => "Generator class must inherit from CodeGenerator"
  | aliasIsLanguage name => "Alias '" ++ name ++ "' conflicts with existing primary language"
  | aliasTaken name owner => "Alias '" ++ name ++ "' already points to '" ++ owner ++ "'"
  | unknownLanguage language available =>
    "No generator registered for language: " ++ language ++ ". Available: " ++
      ", ".intercalate available
  | invalidConfig kind => "Invalid config type: <class '" ++ kind.word ++ "'>"
  | notCreated language fault =>
    "Failed to create " ++ language ++ " generator" ++ (match fault.message? with
      | some text => ": " ++ text
      | none => "")

/-- Is it a string that is no text of characters which keeps a generator from being made? -/
def RegistryError.isLoneHalf : RegistryError → Bool
  | notCreated _ (.config (.loneHalf _)) => true
  | _ => false

/-- Where the configuration of a generator comes from. -/
inductive ConfigSource where
  | standard
  | overrides (members : Assoc Json)
  | file (name : String)
  | complete (settings : Settings)
  | unsupported (kind : Json.Kind)

/-- The registered generators by language, and the language of each alias. -/
structure Registry where
  languages : Assoc GeneratorClass := []
  aliases : Assoc String := []
  deriving DecidableEq, Repr

/-- What people are shown about a language. -/
structure LanguageInfo where
  target : Target
  outputFilename : Json
  aliases : List String
  shownSettings : Assoc Json

namespace Registry

/-- The form in which names are compared. -/
def keyOf (name : String) : String := Text.lowercase name

/-- The aliases of a request in their compared form, without the language itself. -/
def aliasKeys (language : String) (aliases : List String) : List String :=
  (aliases.map keyOf).filter (· ≠ language)

/-- Refuses the first alias that is a language or that belongs to another language. -/
def checkAliases (r : Registry) (language : String) : List String → Except RegistryError Unit
  | [] => .ok ()
  | name :: rest =>
    if r.languages.has name then .error (.aliasIsLanguage name)
    else
      let owner := (r.aliases.get? name).getD language
      if owner = language then checkAliases r language rest
      else .error (.aliasTaken name owner)

/-- The registry with a language and its aliases entered. -/
def enter (r : Registry) (language : String) (c : GeneratorClass) (aliases : List String) :
    Registry where
  languages := r.languages.set language c
  aliases := aliases.foldl (fun t name => t.set name language) r.aliases

/-- The registry after a request to register a generator. -/
def register (r : Registry) (language : String) (candidate : Candidate)
    (aliases : List String := []) (replace : Bool := false) : Except RegistryError Registry :=
  match candidate with
  | .other => .error .notAGenerator
  | .generator c =>
    let key := keyOf language
    let names := aliasKeys key aliases
    if replace then .ok (r.enter key c names)
    else if r.languages.has key then .ok r
    else do
      r.checkAliases key names
      return r.enter key c names

/-- The registry without a language and its aliases. -/
def unregister (r : Registry) (language : String) : Registry where
  languages := r.languages.erase (keyOf language)
  aliases := r.aliases.filter (·.2 ≠ keyOf language)

/-- The registered languages, sorted. -/
def languageNames (r : Registry) : List String := r.languages.keys.mergeSort Settings.nameOrder

/-- The aliases of a language, sorted. -/
def aliasesOf (r : Registry) (language : String) : List String :=
  ((r.aliases.filter (·.2 = keyOf language)).map (·.1)).mergeSort Settings.nameOrder

/-- Is the name a language or an alias? -/
def supports (r : Registry) (name : String) : Bool :=
  r.languages.has (keyOf name) || r.aliases.has (keyOf name)

/-- The language of a name: a language stands for itself before any alias is looked at. -/
def resolve (r : Registry) (name : String) : Except RegistryError String :=
  if r.languages.has (keyOf name) then .ok (keyOf name)
  else match r.aliases.get? (keyOf name) with
    | some language => .ok language
    | none => .error (.unknownLanguage name r.languageNames)

section Creation

variable [Depths]

/-- The configuration that a source gives for a language. -/
def settingsFrom (files : FileTree) (language : String) :
    ConfigSource → Except ConfigError Settings
  | .standard => Settings.forLanguage files language
  | .overrides members => Settings.forLanguage files language members
  | .file name => Settings.forLanguage files language [] name
  | .complete settings => .ok settings
  | .unsupported _ => .error (.unusable "config")

/-- A generator of the registered kind. -/
def instantiate (c : Option GeneratorClass) (settings : Settings) :
    Except CreationFault Generator :=
  match c with
  | some (.target t) => (Generator.create t settings).mapError .config
  | _ => .error .unfinished

/-- A new generator for a language or alias. -/
def create (r : Registry) (files : FileTree) (name : String) (source : ConfigSource := .standard) :
    Except RegistryError Generator := do
  let language ← r.resolve name
  match source with
  | .unsupported kind => throw (.invalidConfig kind)
  | _ =>
    let settings ← (settingsFrom files language source).mapError fun e =>
      RegistryError.notCreated name (.config e)
    (instantiate (r.languages.get? language) settings).mapError (.notCreated name)

/-- What people are shown about a language or alias. -/
def info (r : Registry) (name : String) : Except RegistryError LanguageInfo := do
  let language ← r.resolve name
  let g ← r.create {} language
  return {
    target := g.target
    outputFilename := g.outputFilename
    aliases := r.aliasesOf language
    shownSettings := g.shownSettings }

end Creation

/-- The registry of the languages that are always there. -/
def builtin : Registry where
  languages := [("kotlin", .target .kotlin), ("python", .target .python)]
  aliases := [("kt", "kotlin"), ("py", "python")]

end Registry
end TrackingPlan
