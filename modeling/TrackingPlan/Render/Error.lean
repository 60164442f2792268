import TrackingPlan.Source.Error
import TrackingPlan.Template.Basic

/-!
# Why no code can be written

Key definitions: `GenerationError`, `GenerationError.message?`.
-/

namespace TrackingPlan

/-- Why a run gives no code. -/
inductive GenerationError where
  | build (e : BuildError)
  /-- A parameter with a default has no provider for it. -/
  | noProvider (name : String)
  | template (e : TemplateError)
  /-- The value of a setting cannot be written where the code needs it. -/
  | unusable (setting : String)
  deriving DecidableEq, Repr

/-- The text of a generation error, as far as it has one of its own. -/
def GenerationError.message? : GenerationError → Option String
  | build e => e.message?
  | noProvider name => some ("No default provider configured for '" ++ name ++ "'")
  | template e => some e.message
  | unusable _ => none

end TrackingPlan
