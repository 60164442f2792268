import TrackingPlan.Text.Case

/-!
# Identifiers from names

A name of the schema becomes an identifier by joining its parts, which an underscore separates,
with the first character of each in upper case; spaces are dropped. Types keep that form,
functions and parameters start in lower case, and constants are upper case as a whole.

Key definitions: `normalize`, `typeName`, `functionName`, `parameterName`, `constantName`.
-/

namespace TrackingPlan
namespace Naming

open Text

/-- The name as a joined list of capitalized parts. -/
def normalize (name : String) : String :=
  String.ofList (((name.toList.filter (· ≠ ' ')).splitOn '_').flatMap capitalize)

/-- The name with its first character in lower case. -/
def decapitalize (name : String) : String := String.ofList (Text.decapitalize name.toList)

/-- The identifier of a type. -/
def typeName (name : String) : String := normalize name

/-- The identifier of a function. -/
def functionName (name : String) : String := decapitalize (normalize name)

/-- The identifier of a parameter. -/
def parameterName (name : String) : String := decapitalize (normalize name)

/-- The identifier of a constant: the name in upper case, without its spaces. -/
def constantName (name : String) : String :=
  String.ofList (upper (name.toList.filter (· ≠ ' ')))

end Naming
end TrackingPlan
