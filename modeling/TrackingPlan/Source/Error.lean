import TrackingPlan.Json.Display
import TrackingPlan.Json.Printer
import TrackingPlan.Schema.Basic

/-!
# Why no source file can be built

Key definitions: `Space`, `BuildError`, `BuildError.message?`, `BuildError.integerText`.
-/

namespace TrackingPlan

/-- A set of identifiers that have to differ. The name of the object is meant to be a text; any
other value is kept as it is. -/
inductive Space where
  | parameters (event : String)
  | object (name : Json)
  | topLevelTypes
  | enumeration (identifier : String)
  deriving DecidableEq, Repr

/-- The text of a space in messages, if it can be written. -/
def Space.text? : Space → Option String
  | parameters event => some ("parameters of event " ++ event)
  | object name => name.display?.map fun name => "object " ++ name
  | topLevelTypes => some "top-level types"
  | enumeration identifier => some ("enum " ++ identifier)

/-- Why the event type of an event cannot be used. -/
inductive EventTypeFault where
  | repeated
  | notAStringEnum
  deriving DecidableEq, Repr

/-- The text of the reason. -/
def EventTypeFault.text : EventTypeFault → String
  | repeated => "is set more than once"
  | notAStringEnum => "must have a string enum value"

/-- Why a schema cannot be turned into a source file. -/
inductive BuildError where
  /-- A value has not exactly one payload; `slots` are those that are set. -/
  | invalidValue (parameter : String) (slots : List Slot)
  | invalidEventType (event : String) (fault : EventTypeFault)
  | missingEventType (event : String)
  | duplicateIdentifier (space : Space) (identifier : String)
  /-- An integer of the schema has too many digits to be written. -/
  | tooManyDigits
  /-- The value of a setting is of a kind that has no meaning there. -/
  | unusable (setting : String)
  deriving DecidableEq, Repr

/-- The sentence about an identifier that occurs more than once, if it can be written. -/
def duplicateText? (space : Space) (identifier : String) : Option String :=
  space.text?.map fun text => "Duplicate identifier '" ++ identifier ++ "' in " ++ text

/-- The text of a build error, as far as it has one of its own. -/
def BuildError.message? : BuildError → Option String
  | invalidValue parameter slots =>
    let reason := match slots with
      | [] => "no value set"
      | _ => "several values set: " ++ ", ".intercalate (slots.map (·.word))
    some ("Invalid publish parameter value. Parameter: " ++ parameter ++ " (" ++ reason ++ ")")
  | invalidEventType event fault => some ("Event " ++ event ++ ": event_type " ++ fault.text)
  | missingEventType event => some ("Event " ++ event ++ " does not contain an event_type value")
  | duplicateIdentifier space identifier => duplicateText? space identifier
  | tooManyDigits => none
  | unusable _ => none

/-- The text of an integer, unless it has too many digits. -/
def BuildError.integerText (n : Int) : Except BuildError String :=
  match integerText? n with
  | some text => .ok text
  | none => .error .tooManyDigits

end TrackingPlan
