import TrackingPlan.Python.Outline
import TrackingPlan.Render.Fragment

/-!
# The text of Python modules

The layout of records, methods, enumerations and of the whole module. Any of them can be
replaced by a stored template. The enumerations are written first; a method asks for the
providers of its defaults, then for its records.

Key definitions: `recordText`, `methodText`, `enumText`, `moduleText`, `Module.print`.
-/

namespace TrackingPlan
namespace Python

open Layout

/-- The names of the layouts. -/
def layoutNames : List String := ["enum.py.j2", "function.py.j2", "module.py.j2", "raw_event.py.j2"]

/-- The text of a record, given the literals of its keys with the expressions. -/
def recordText (rawEventType name : String) (entries : List (String × String)) : String :=
  block ([rawEventType ++ "(", "    name=" ++ name ++ ","] ++
    (if entries.isEmpty then ["    parameters=\x7b\x7d,"]
    else ["    parameters=\x7b"] ++
      entries.map (fun (key, value) => "        " ++ key ++ ": " ++ value ++ ",") ++
      ["    \x7d,"]) ++
    [")"])

/-- The text of a parameter. -/
def parameterText (p : Parameter) : String :=
  if p.isOptional then p.name ++ ": " ++ optionalType p.type ++ " = None"
  else p.name ++ ": " ++ p.type

/-- The text of a method, given the expressions of its defaults and its arguments. -/
def methodText (dualEventType : String) (m : Method)
    (defaults arguments : List (String × String)) : String :=
  block (["@staticmethod",
    "def " ++ m.name ++ "(" ++ ", ".intercalate (m.parameters.map parameterText) ++ ") -> " ++
      dualEventType ++ ":"] ++
    (match m.docstring with
      | some text => [indent 4 text]
      | none => []) ++
    defaults.flatMap (fun (name, expression) =>
      ["    if " ++ name ++ " is None:", "        " ++ name ++ " = " ++ expression]) ++
    ["    return " ++ dualEventType ++ "("] ++
    arguments.map (fun (name, value) => "        " ++ name ++ "=" ++ hang 8 value ++ ",") ++
    ["    )"])

/-- The text of an enumeration. -/
def enumText (e : EnumClass) : String :=
  block (["class " ++ e.name ++ "(Enum):"] ++
    (if e.members.isEmpty then ["    pass"]
    else e.members.map fun (name, value) => "    " ++ name ++ " = " ++ value))

/-- The methods of the event class, indented, with an empty line between each two. -/
def bodyLines : List String → List String
  | [] => ["    pass"]
  | [m] => [indent 4 m]
  | m :: rest => indent 4 m :: "" :: bodyLines rest

/-- The lines of the constant that holds the version of the schema, where there is one. -/
def Module.versionLines? (style : Style) (m : Module) : Option (List String) :=
  match m.schemaVersion with
  | some version => style.schemaVersionConstant.display?.map fun constant =>
      ["", constant ++ " = " ++ stringLiteral version]
  | none => some []

/-- The text of a module, given the names of the runtime and of its class, the names that it imports
from the runtime, the lines of its constant, and the texts of its methods and enumerations. -/
def moduleText (m : Module) (runtimeModule objectName : String)
    (imports versionLines methods enums : List String) : String :=
  block ([comment "#" (block m.header), "from __future__ import annotations", ""] ++
    (if enums.isEmpty then [] else ["from enum import Enum", ""]) ++
    ["from " ++ runtimeModule ++ " import " ++ ", ".intercalate imports] ++
    versionLines ++
    ["", "", "class " ++ objectName ++ ":"] ++
    bodyLines methods ++
    enums.flatMap (fun e => ["", "", e]) ++ [""])

/-- The entries of a record, when each of them has both its texts. -/
def Record.entries? (r : Record) : Option (List (String × String)) :=
  r.entries.mapM fun (key, value) => do return (← key, ← value)

/-- The layout of a record. -/
def Record.text? (style : Style) (r : Record) : Option String := do
  return recordText (← style.rawEventType.display?) r.name (← r.entries?)

/-- The arguments of a method with their names, given the texts of its records. -/
def Method.arguments (style : Style) (m : Method) (business : String)
    (publish : Option String) : List (Json × String) :=
  [(style.businessArgument, business)] ++
  (publish.map fun text => (style.publishArgument, text)).toList ++
  (m.consumerTags.map fun tags =>
    (style.consumerTagsArgument, "[" ++ ", ".intercalate tags ++ "]")).toList

/-- The layout of a method, given the expressions of its defaults and the arguments. -/
def Method.text? (style : Style) (m : Method) (defaults : List (String × Json))
    (arguments : List (Json × String)) : Option String := do
  let defaults ← defaults.mapM fun (name, e) => return (name, ← e.display?)
  return methodText (← style.dualEventType.display?) m defaults (← Json.displayNames? arguments)

/-- The layout of a module, given the names that it imports from the runtime and the texts of its
methods and enumerations. -/
def Module.text? (style : Style) (m : Module) (imports : List Json)
    (methods enums : List String) : Option String := do
  return moduleText m (← style.runtimeModule.display?) (← m.objectName.display?)
    (← imports.mapM (·.display?)) (← m.versionLines? style) methods enums

/-- A record under the templates. -/
def Record.print (style : Style) (templates : TemplateSet) (r : Record) :
    Except GenerationError String :=
  fragment templates "raw_event.py.j2" (r.text? style)

/-- A guard with the expression that its provider gives. -/
def Guard.resolve (style : Style) (g : Guard) : Except GenerationError (String × Json) := do
  return (g.name, ← style.providers.expression g.defaultName)

/-- A method under the templates. -/
def Method.print (style : Style) (templates : TemplateSet) (m : Method) :
    Except GenerationError String := do
  let defaults ← m.guards.mapM (·.resolve style)
  let business ← m.business.print style templates
  let publish ← m.publish.mapM (·.print style templates)
  fragment templates "function.py.j2"
    (m.text? style defaults (m.arguments style business publish))

/-- A module under the templates. -/
def Module.print (style : Style) (templates : TemplateSet) (m : Module) :
    Except GenerationError String := do
  let enums ← m.enums.mapM fun e => fragment templates "enum.py.j2" (enumText e)
  let methods ← m.methods.mapM (·.print style templates)
  let imports ← style.runtimeImports m.usesContext
  (templates.fill "module.py.j2" (m.text? style imports methods enums)).mapError .template

end Python
end TrackingPlan
