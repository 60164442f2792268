import TrackingPlan.Source.File

/-!
# Warnings about a schema

What does not stop the generator but spoils its output: parameters of a type that has no
enumeration, and, unless the run is strict, identifiers that clash. A language adds the
enumerations that it has to rename.

Key definitions: `Warning`, `Warning.text?`, `Schema.warnings`.
-/

namespace TrackingPlan

/-- A warning. -/
inductive Warning where
  | unknownType (event parameter type : String)
  | duplicate (space : Space) (identifier : String)
  | renamed (type className identifier : String)
  deriving DecidableEq, Repr

/-- The text of a warning, if it can be written. -/
def Warning.text? : Warning → Option String
  | unknownType event parameter type =>
    some ("Parameter " ++ event ++ "." ++ parameter ++ " refers to '" ++ type ++
      "', which has no string enum")
  | duplicate space identifier => duplicateText? space identifier
  | renamed type className identifier =>
    some ("Enum type '" ++ type ++ "' is generated as '" ++ className ++
      "' to avoid the Python name '" ++ identifier ++ "'")

namespace Schema

/-- The parameters of an event whose type is none of the known names. -/
def unknownTypes (known : List String) (e : Event) : List Warning :=
  (e.parameters ++ e.values.map (·.parameter)).filterMap fun p =>
    match p.type with
    | .named t => if t ∈ known then none else some (.unknownType e.name p.name t)
    | .primitive _ => none

/-- The warnings that every language gives. A schema that cannot be built has none about its
identifiers, unless the options or the length of its integers are to blame for it. -/
def warnings (s : Schema) (options : Options) : Except BuildError (List Warning) :=
  let known := s.enumTypes.map (·.name)
  let unknown := s.events.flatMap (unknownTypes known)
  if options.strictIdentifiers then .ok unknown
  else match s.toSource options with
    | .ok source => .ok (unknown ++ source.conflicts.map fun (space, i) => .duplicate space i)
    | .error (.unusable setting) => .error (.unusable setting)
    | .error .tooManyDigits => .error .tooManyDigits
    | .error _ => .ok unknown

end Schema
end TrackingPlan
