import TrackingPlan.Render.Error
import TrackingPlan.Template.Set

/-!
# The parts of a file

The code of a language is put together from parts. Each of them is written in the layout that the
language has for it, or in the template that is stored under its name.

Key definition: `fragment`.
Key theorem: `fragment_eq_ok`.
-/

namespace TrackingPlan

/-- The text of a fragment under the templates. -/
def fragment (templates : TemplateSet) (name : String) (layout : Option String) :
    Except GenerationError String :=
  (templates.fillFragment name layout).mapError .template

/-- Without stored templates a fragment has the text of its own layout, if there is one. -/
theorem fragment_eq_ok {names : List String} (name : String) {layout : Option String}
    {text : String} : fragment (.builtin names) name layout = .ok text ↔ layout = some text := by
  cases layout with
  | none =>
    have herror : fragment (.builtin names) name none = .error (.template (.named name)) := rfl
    simp [herror]
  | some shown =>
    have hshown : fragment (.builtin names) name (some shown) = .ok shown := rfl
    simp [hshown]

end TrackingPlan
