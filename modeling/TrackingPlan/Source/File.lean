import TrackingPlan.Source.Function

/-!
# The source file of a schema

The file holds the functions in the order of the events and the enumerations in the order of the
types. Identifiers that occur more than once in one space are conflicts; a strict run refuses
them.

Key definitions: `SchemaType.toEnumeration?`, `SourceFile.conflicts`, `Schema.toSource`.
-/

namespace TrackingPlan

open Naming

/-- The enumeration of a type, when the type lists its strings. -/
def SchemaType.toEnumeration? (t : SchemaType) (conventions : Conventions) :
    Option Enumeration :=
  t.stringEnum.map fun strings => {
    identifier := typeName t.name
    constants := strings.map fun s => ⟨constantName s, s⟩
    valueField := conventions.enumValueField }

/-- The names that occur more than once, each once, in the order of their first occurrence. -/
def repeated (names : List String) : List String :=
  names.eraseDups.filter fun n => 1 < names.count n

/-- The identifiers that several constants of the enumeration share. -/
def Enumeration.repeatedConstants (e : Enumeration) : List String :=
  repeated (e.constants.map (·.identifier))

/-- The identifiers that clash in the file, each with the space in which it does. -/
def SourceFile.conflicts (s : SourceFile) : List (Space × String) :=
  (repeated (s.functions.map (·.identifier))).map (fun i => (.object s.objectName, i)) ++
  (repeated (s.enums.map (·.identifier))).map (fun i => (.topLevelTypes, i)) ++
  s.enums.flatMap fun e => e.repeatedConstants.map fun i => (.enumeration e.identifier, i)

namespace Schema

/-- The lines of the comment at the head of the file, with the text of the version. -/
def headerLines (s : Schema) (version : String) : List String := [
  s.projectId ++ " schema version " ++ version,
  "Generated with mammoth-codegen",
  "Do not edit manually."]

/-- The enumerations of the types, in order; without conventions there may still be none, and a
value that counts as not set stands for the default ones. -/
def enumerations (s : Schema) (options : Options) : Except BuildError (List Enumeration) :=
  match options.conventions with
  | .ok conventions => .ok (s.types.filterMap (·.toEnumeration? conventions))
  | .error v =>
    let found := s.types.filterMap (·.toEnumeration? {})
    if v.isTruthy && !found.isEmpty then .error (.unusable "conventions") else .ok found

/-- The source file, whether its identifiers clash or not. -/
def toLenientSource (s : Schema) (options : Options) : Except BuildError SourceFile := do
  let functions ← s.events.mapM (·.toFunction options)
  let enums ← s.enumerations options
  let version ← BuildError.integerText s.versionNumber
  return {
    headerLines := s.headerLines version
    objectName := options.outputClassName
    functions
    enums
    schemaVersion := if options.includeSchemaMetadata then some version else none }

/-- The source file; a strict run refuses the first conflict. -/
def toSource (s : Schema) (options : Options) : Except BuildError SourceFile := do
  let source ← s.toLenientSource options
  if options.strictIdentifiers then
    match source.conflicts with
    | (space, identifier) :: _ => throw (.duplicateIdentifier space identifier)
    | [] => return source
  else return source

end Schema
end TrackingPlan
