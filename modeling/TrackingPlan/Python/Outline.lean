import TrackingPlan.Json.Display
import TrackingPlan.Python.Literal
import TrackingPlan.Python.Style
import TrackingPlan.Source.Warning

/-!
# Python modules

What a Python module consists of: every name in it is final and every value of a record is an
expression of the language, so that only the layout is left to do. The names come from three
scopes: the classes of the module, the methods of the event class, and the parameters of one
method. A scope is cleared where its namespace begins.

Key definitions: `Scopes`, `Parameter`, `Record`, `Method`, `EnumClass`, `Module`,
`Module.ofSource`, `renameWarnings`.
-/

namespace TrackingPlan
namespace Python

open Naming

/-- The scopes that names are taken from. -/
structure Scopes where
  classes : Scope := emptyScope
  methods : Scope := emptyScope
  locals : Scope := emptyScope
  deriving DecidableEq, Repr

/-- A computation that takes names. -/
abbrev Names := StateM Scopes

/-- The class name for an identifier. -/
def className (identifier : String) : Names String := fun s =>
  let (name, classes) := s.classes.sanitize identifier .preserve
  (name, { s with classes })

/-- The method name for an identifier. -/
def methodName (identifier : String) : Names String := fun s =>
  let (name, methods) := s.methods.sanitize identifier .snake
  (name, { s with methods })

/-- The parameter name for an identifier, in the method at hand. -/
def localName (identifier : String) : Names String := fun s =>
  let (name, locals) := s.locals.sanitize identifier .snake
  (name, { s with locals })

/-- A scope for the classes of a module: cleared, and with the fixed names of the module taken. -/
def moduleScope (taken : List String) (scope : Scope) : Scope :=
  taken.foldl Scope.reserve scope.clear

/-- A parameter of a method; an optional one is filled in by a guard. -/
structure Parameter where
  name : String
  type : String
  isOptional : Bool
  deriving DecidableEq, Repr

/-- A raw event: its name, and the literal of each key with an expression, as far as they can be
written. -/
structure Record where
  name : String
  entries : List (Option String × Option String)
  deriving DecidableEq, Repr

/-- The line that fills in a parameter which the caller left out. -/
structure Guard where
  name : String
  defaultName : String
  deriving DecidableEq, Repr

/-- A method of the event class. -/
structure Method where
  name : String
  docstring : Option String
  parameters : List Parameter
  guards : List Guard
  business : Record
  publish : Option Record
  consumerTags : Option (List String)
  deriving DecidableEq, Repr

/-- An enumeration class with its members and their strings. -/
structure EnumClass where
  name : String
  members : List (String × String)
  deriving DecidableEq, Repr

/-- A module. -/
structure Module where
  header : List String
  enums : List EnumClass
  usesContext : Bool
  schemaVersion : Option String
  objectName : Json
  methods : List Method
  deriving DecidableEq, Repr

/-- The type of a parameter in code. -/
def typeOf : ParameterType → Names String
  | .primitive p => return typeWord p
  | .named name => className (typeName name)

/-- The text of a parameter that is converted to a string. -/
def converted (name : String) (type : ParameterType) : Conversion → String
  | .identity => name
  | .stringify =>
    if type = .primitive .boolean then "str(" ++ name ++ ").lower()" else "str(" ++ name ++ ")"
  | .enumValue => name ++ ".value"

/-- The value of an entry in code, if it can be written. -/
def expressionOf (style : Style) : Expression → Names (Option String)
  | .literal text => return some (stringLiteral text)
  | .parameter identifier type conversion =>
    return some (converted (← localName identifier) type conversion)
  | .schemaVersion => return style.schemaVersionConstant.display?

/-- A record in code. -/
def Record.of (style : Style) (r : EventRecord) : Names Record := do
  let entries ← r.entries.mapM fun e =>
    return (keyLiteral? e.key, ← expressionOf style e.value)
  return { name := stringLiteral r.name, entries }

/-- A parameter in code. -/
def Parameter.of (p : ParameterDefinition) : Names Parameter := do
  let name ← localName p.identifier
  let type ← typeOf p.type
  return { name, type, isOptional := p.hasDefault }

/-- The guard of a parameter, when it has a default. -/
def Guard.of? (p : ParameterDefinition) : Names (Option Guard) := do
  match p.defaultName with
  | some defaultName => return some { name := ← localName p.identifier, defaultName }
  | none => return none

/-- Clears the scope of parameters. -/
def startMethod : Names Unit := fun s => ((), { s with locals := s.locals.clear })

/-- A method in code. -/
def Method.of (options : Options) (style : Style) (f : EventFunction) : Names Method := do
  let name ← methodName f.identifier
  startMethod
  let parameters ← f.parameters.mapM Parameter.of
  let guards ← f.parameters.mapM Guard.of?
  let business ← Record.of style f.business
  let publish ← f.publish.mapM (Record.of style)
  return {
    name
    docstring := Python.docstring options.addComments f.description
    parameters
    guards := guards.filterMap id
    business
    publish
    consumerTags := f.consumerTags.map (·.map stringLiteral) }

/-- An enumeration in code. -/
def EnumClass.of (e : Enumeration) : Names EnumClass := do
  let name ← className e.identifier
  return { name, members := e.constants.map fun c => (c.identifier, stringLiteral c.value) }

/-- Clears the scopes of classes and methods for a module that takes some names for itself. -/
def startModule (taken : List String) : Names Unit := fun s =>
  ((), { s with
    classes := moduleScope taken s.classes
    methods := s.methods.clear })

/-- The module of a source, when it takes some names for itself. -/
def Module.ofSource (options : Options) (style : Style) (taken : List String)
    (source : SourceFile) : Names Module := do
  startModule taken
  let enums ← source.enums.mapM EnumClass.of
  let methods ← source.functions.mapM (Method.of options style)
  return {
    header := source.headerLines
    enums
    usesContext := source.hasDefaults
    schemaVersion := source.schemaVersion
    objectName := source.objectName
    methods }

/-- The warnings about types that get another class name than their own, given the scope that
the names before them have left. -/
def renamesFrom (scope : Scope) : List SchemaType → List Warning
  | [] => []
  | t :: rest =>
    let identifier := typeName t.name
    let (name, scope) := scope.sanitize identifier .preserve
    (if name = identifier then [] else [.renamed t.name name identifier]) ++
      renamesFrom scope rest

/-- The warnings about the types of a schema that get another class name than their own. -/
def renameWarnings (options : Options) (style : Style) (schema : Schema) :
    Except GenerationError (List Warning) :=
  (style.moduleNames options.outputClassName).map fun taken =>
    renamesFrom (moduleScope taken emptyScope) schema.enumTypes

end Python
end TrackingPlan
