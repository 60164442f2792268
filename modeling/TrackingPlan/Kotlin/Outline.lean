import TrackingPlan.Json.Display
import TrackingPlan.Kotlin.Literal
import TrackingPlan.Kotlin.Style
import TrackingPlan.Source.File

/-!
# Kotlin files

What a Kotlin file consists of: every name in it is final and every value of a record is an
expression of the language, so that only the layout is left to do. Where a setting gives no text
for a name or a key there is none, and the part of the file with it cannot be written.

Key definitions: `Parameter`, `Record`, `Function`, `EnumClass`, `File`, `File.ofSource`.
-/

namespace TrackingPlan
namespace Kotlin

/-- A parameter of a function; `defaultName` asks for the provider of its default. -/
structure Parameter where
  name : String
  type : String
  defaultName : Option String
  deriving DecidableEq, Repr

/-- A raw event: its name, and the literal of each key with an expression. An expression is a text,
but for a name that the settings do not give as one. -/
structure Record where
  name : String
  entries : List (Option String × Option Json)
  deriving DecidableEq, Repr

/-- A function of the object. -/
structure Function where
  name : String
  description : List String
  parameters : List Parameter
  business : Record
  publish : Option Record
  consumerTags : Option (List String)
  deriving DecidableEq, Repr

/-- An enumeration class with its constants and their strings. -/
structure EnumClass where
  name : String
  valueField : Option Json
  constants : List (String × String)
  deriving DecidableEq, Repr

/-- A file. -/
structure File where
  header : List String
  packageName : Json
  imports : List String
  schemaVersion : Option String
  objectName : Option Json
  functions : List Function
  enums : List EnumClass
  deriving DecidableEq, Repr

/-- The type of a parameter in code. -/
def typeOf : ParameterType → String
  | .primitive p => typeWord p
  | .named name => escapeIdentifier (Naming.typeName name)

/-- The text of the field of enumerations that holds the string of the schema. -/
def valueField? (options : Options) : Option String :=
  match options.conventions with
  | .ok conventions => (identifierOf? conventions.enumValueField).bind (·.display?)
  | .error _ => none

/-- The value of an entry in code. -/
def expressionOf (options : Options) (style : Style) : Expression → Option Json
  | .literal text => some (.str (stringLiteral text))
  | .parameter identifier _ .identity => some (.str (escapeIdentifier identifier))
  | .parameter identifier _ .stringify =>
    some (.str (escapeIdentifier identifier ++ ".toString()"))
  | .parameter identifier _ .enumValue =>
    (valueField? options).map fun field => .str (escapeIdentifier identifier ++ "." ++ field)
  | .schemaVersion => some style.schemaVersionConstant

/-- A record in code. -/
def Record.of (options : Options) (style : Style) (r : EventRecord) : Record where
  name := stringLiteral r.name
  entries := r.entries.map fun e => (keyLiteral? e.key, expressionOf options style e.value)

/-- A parameter in code. -/
def Parameter.of (p : ParameterDefinition) : Parameter where
  name := escapeIdentifier p.identifier
  type := typeOf p.type
  defaultName := p.defaultName

/-- A function in code. -/
def Function.of (options : Options) (style : Style) (f : EventFunction) : Function where
  name := escapeIdentifier f.identifier
  description := descriptionLines options.addComments f.description
  parameters := f.parameters.map .of
  business := .of options style f.business
  publish := f.publish.map (.of options style)
  consumerTags := f.consumerTags.map (·.map stringLiteral)

/-- An enumeration in code. -/
def EnumClass.of (e : Enumeration) : EnumClass where
  name := escapeIdentifier e.identifier
  valueField := identifierOf? e.valueField
  constants := e.constants.map fun c => (escapeIdentifier c.identifier, stringLiteral c.value)

/-- Does any parameter have the primitive type? -/
def usesType (source : SourceFile) (p : Primitive) : Bool :=
  source.functions.any fun f => f.parameters.any (·.type == .primitive p)

/-- The types of the standard library that the file needs, in the order of their names. -/
def importedTypes (source : SourceFile) : List String :=
  (if usesType source .boolean then [typeWord .boolean] else []) ++
  (if usesType source .integer then [typeWord .integer] else []) ++
  (if usesType source .string || source.schemaVersion.isSome || !source.enums.isEmpty then
    [typeWord .string] else [])

/-- The file of a source. -/
def File.ofSource (options : Options) (style : Style) (source : SourceFile) : File where
  header := source.headerLines
  packageName := options.packageName
  imports := (importedTypes source).map ("kotlin." ++ ·)
  schemaVersion := source.schemaVersion
  objectName := identifierOf? source.objectName
  functions := source.functions.map (.of options style)
  enums := source.enums.map .of

end Kotlin
end TrackingPlan
