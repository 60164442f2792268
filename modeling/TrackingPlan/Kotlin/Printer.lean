import TrackingPlan.Kotlin.Outline
import TrackingPlan.Render.Fragment

/-!
# The text of Kotlin files

The layout of records, functions, enumerations and of the whole file. Any of them can be
replaced by a stored template; a function asks for its records first, then for the providers of
its defaults.

Key definitions: `recordText`, `functionText`, `enumText`, `fileText`, `File.print`.
-/

namespace TrackingPlan
namespace Kotlin

open Layout

/-- The names of the layouts. -/
def layoutNames : List String := ["enum.kt.j2", "file.kt.j2", "function.kt.j2", "raw_event.kt.j2"]

/-- Every item of a list with a comma after it, except the last. -/
def withCommas : List String → List String
  | [] => []
  | [last] => [last]
  | item :: rest => (item ++ ",") :: withCommas rest

/-- The text of a record, given the literals of its keys with the expressions. -/
def recordText (rawEventType name : String) (entries : List (String × String)) : String :=
  block ([rawEventType ++ "(", "    name = " ++ name ++ ","] ++
    (if entries.isEmpty then ["    parameters = mapOf()"]
    else ["    parameters = mapOf("] ++
      withCommas (entries.map fun (key, value) => "        " ++ key ++ " to " ++ value) ++
      ["    )"]) ++
    [")"])

/-- The text of a parameter, with the expression of its default. -/
def parameterText (p : Parameter) (default : Option String) : String :=
  p.name ++ ": " ++ p.type ++ (match default with
    | some e => " = " ++ e
    | none => "")

/-- The lines of the documentation comment. -/
def commentLines (description : List String) : List String :=
  if description.isEmpty then []
  else ["/**"] ++ description.map (fun l => if l = "" then " *" else " * " ++ l) ++ [" */"]

/-- The text of a function, given the texts of its parameters and arguments. -/
def functionText (dualEventType : String) (f : Function) (parameters : List String)
    (arguments : List (String × String)) : String :=
  block (commentLines f.description ++
    ["public fun " ++ f.name ++ "(" ++ ", ".intercalate parameters ++ "): " ++
      dualEventType ++ " = " ++ dualEventType ++ "("] ++
    withCommas (arguments.map fun (name, value) => "    " ++ name ++ " = " ++ hang 4 value) ++
    [")"])

/-- The text of an enumeration, given the field that holds its strings. -/
def enumText (e : EnumClass) (valueField : String) : String :=
  block (["public enum class " ++ e.name ++ "(",
    "    public val " ++ valueField ++ ": String", ") \x7b"] ++
    e.constants.map (fun (name, value) => "    " ++ name ++ "(" ++ value ++ "),") ++
    ["    ;", "\x7d"])

/-- The functions of the object, indented, with an empty line between each two. -/
def bodyLines : List String → List String
  | [] => []
  | [f] => [indent 4 f]
  | f :: rest => indent 4 f :: "" :: bodyLines rest

/-- The lines of the constant that holds the version of the schema, where there is one. -/
def File.versionLines? (style : Style) (f : File) : Option (List String) :=
  match f.schemaVersion with
  | some version => style.schemaVersionConstant.display?.map fun constant =>
      ["private const val " ++ constant ++ ": String = " ++ stringLiteral version, ""]
  | none => some []

/-- The text of a file, given the names of its package and its object, the lines of its constant,
and the texts of its functions and enumerations. -/
def fileText (f : File) (packageName objectName : String)
    (versionLines functions enums : List String) : String :=
  block ([comment "//" (block f.header), "package " ++ packageName, ""] ++
    (if f.imports.isEmpty then [] else f.imports.map ("import " ++ ·) ++ [""]) ++
    versionLines ++
    ["public object " ++ objectName ++ " \x7b"] ++
    bodyLines functions ++ ["\x7d"] ++
    enums.flatMap (fun e => ["", e]) ++ [""])

/-- The entries of a record, when each of them has both its texts. -/
def Record.entries? (r : Record) : Option (List (String × String)) :=
  r.entries.mapM fun (key, value) => do return (← key, ← (← value).display?)

/-- The layout of a record. -/
def Record.text? (style : Style) (r : Record) : Option String := do
  return recordText (← style.rawEventType.display?) r.name (← r.entries?)

/-- The arguments of a function with their names, given the texts of its records. -/
def Function.arguments (style : Style) (f : Function) (business : String)
    (publish : Option String) : List (Json × String) :=
  [(style.businessArgument, business)] ++
  (publish.map fun text => (style.publishArgument, text)).toList ++
  (f.consumerTags.map fun tags =>
    (style.consumerTagsArgument, "listOf(" ++ ", ".intercalate tags ++ ")")).toList

/-- The layout of a function, given the texts of its parameters and the arguments. -/
def Function.text? (style : Style) (f : Function) (parameters : List String)
    (arguments : List (Json × String)) : Option String := do
  return functionText (← style.dualEventType.display?) f parameters
    (← Json.displayNames? arguments)

/-- The layout of a file, given the name of its object and the texts of its functions and
enumerations. -/
def File.text? (style : Style) (f : File) (objectName : Json) (functions enums : List String) :
    Option String := do
  return fileText f (← f.packageName.display?) (← objectName.display?) (← f.versionLines? style)
    functions enums

/-- A record under the templates; it needs all its expressions, whatever its template is. -/
def Record.print (style : Style) (templates : TemplateSet) (r : Record) :
    Except GenerationError String :=
  if r.entries.any (·.2.isNone) then .error (.unusable "enum_value_field")
  else fragment templates "raw_event.kt.j2" (r.text? style)

/-- A parameter with the provider of its default. -/
def Parameter.print (style : Style) (p : Parameter) : Except GenerationError String := do
  match p.defaultName with
  | some name =>
    match (← style.providers.expression name).display? with
    | some e => return parameterText p (some e)
    | none => throw (.unusable "default_providers")
  | none => return parameterText p none

/-- A function under the templates. -/
def Function.print (style : Style) (templates : TemplateSet) (f : Function) :
    Except GenerationError String := do
  let business ← f.business.print style templates
  let publish ← f.publish.mapM (·.print style templates)
  let parameters ← f.parameters.mapM (·.print style)
  fragment templates "function.kt.j2"
    (f.text? style parameters (f.arguments style business publish))

/-- An enumeration under the templates. -/
def EnumClass.print (templates : TemplateSet) (e : EnumClass) : Except GenerationError String :=
  match e.valueField with
  | some field => fragment templates "enum.kt.j2" (field.display?.map (enumText e))
  | none => .error (.unusable "enum_value_field")

/-- A file under the templates. -/
def File.print (style : Style) (templates : TemplateSet) (f : File) :
    Except GenerationError String := do
  let functions ← f.functions.mapM (·.print style templates)
  let enums ← f.enums.mapM (·.print templates)
  match f.objectName with
  | some name =>
    (templates.fill "file.kt.j2" (f.text? style name functions enums)).mapError .template
  | none => throw (.unusable "output_class_name")

end Kotlin
end TrackingPlan
