import TrackingPlan.Proofs.Source.File

/-!
# What the records refer to

The values of a record are the texts known in advance, a reference to each parameter of the event
and the metadata, whichever record it is. As no two parameters have one identifier, a reference
belongs to one parameter of the function, and each parameter is referred to once by each record.
The version of the schema is referred to just when the source has one.

Key definitions: `Expression.refersTo`, `EventFunction.Closes`.
Key theorems: `Event.countP_recordValues`, `Event.closes_of_toFunction`,
`Schema.closes_of_toSource`.
-/

namespace TrackingPlan

open Naming Steps

/-- Is the expression a reference to the parameter: does it have its identifier and its type? -/
def Expression.refersTo : Expression → ParameterDefinition → Bool
  | .parameter identifier type _, p => identifier = p.identifier ∧ type = p.type
  | _, _ => false

/-- Each reference of the record is to one parameter of the function, each parameter is referred to
once, and the version of the schema once if there is one. -/
structure EventFunction.Closes (f : EventFunction) (version : Option String) (r : EventRecord) :
    Prop where
  reference : ∀ e ∈ r.entries, ∀ {identifier type conversion},
    e.value = .parameter identifier type conversion → f.parameters.countP e.value.refersTo = 1
  parameter : ∀ p ∈ f.parameters, r.entries.countP (·.value.refersTo p) = 1
  version : r.entries.countP (·.value = .schemaVersion) = if version.isSome then 1 else 0

/-- Among items of different keys, of which one has an image with the property and any other such
one has its key, there is just one image with the property. -/
theorem countP_map_eq_one {α β γ : Type} [DecidableEq α] {key : α → β} {l : List α} {g : α → γ}
    {p : γ → Bool} {a : α} (hnodup : (l.map key).Nodup) (ha : a ∈ l) (hpa : p (g a))
    (hkey : ∀ b ∈ l, p (g b) → key b = key a) : (l.map g).countP p = 1 := by
  have hinj := List.inj_on_of_nodup_map hnodup
  have hiff : ∀ b ∈ l, (p ∘ g) b = true ↔ (b == a) = true := by
    intro b hb
    rw [beq_iff_eq]
    exact ⟨fun hpb => hinj hb ha (hkey b hb hpb), fun h => h ▸ hpa⟩
  rw [List.countP_map, List.countP_congr hiff]
  exact List.count_eq_one_of_mem (List.Nodup.of_map key hnodup) ha

namespace Event

variable {event : Event} {options : Options} {conventions : Conventions} {f : EventFunction}
  {p : Parameter}

theorem refersTo_definition (p q : Parameter) (conventions : Conventions) :
    p.expression.refersTo (q.definition conventions) = true ↔
      parameterName p.name = parameterName q.name ∧ p.type = q.type := by
  simp [Parameter.expression, Parameter.definition, Expression.refersTo]

theorem refersTo_own_definition (p : Parameter) (conventions : Conventions) :
    p.expression.refersTo (p.definition conventions) = true :=
  (refersTo_definition p p conventions).mpr (And.intro rfl rfl)

theorem countP_definitions (hnodup : (event.parameters.map (parameterName ·.name)).Nodup)
    (hp : p ∈ event.parameters) :
    (event.parameterDefinitions conventions).countP p.expression.refersTo = 1 := by
  rw [(event.parameterDefinitions_perm conventions).countP_eq]
  refine countP_map_eq_one hnodup hp ?_ fun q _ hq => ?_
  · exact refersTo_own_definition p conventions
  · exact ((refersTo_definition p q conventions).mp hq).1.symm

theorem countP_expressions (hnodup : (event.parameters.map (parameterName ·.name)).Nodup)
    (hp : p ∈ event.parameters) :
    (event.parameters.map (·.expression)).countP (·.refersTo (p.definition conventions)) = 1 := by
  refine countP_map_eq_one hnodup hp ?_ fun q _ hq => ?_
  · exact refersTo_own_definition p conventions
  · exact ((refersTo_definition q p conventions).mp hq).1

/-- The parameters of a function are made of those of the event, which have different
identifiers. -/
theorem exists_parameters (h : event.toFunction options = .ok f) : ∃ conventions,
    f.parameters = event.parameterDefinitions conventions ∧
      (event.parameters.map (parameterName ·.name)).Nodup := by
  obtain ⟨conventions, _, _, _, _, -, hcheck, -, -, -, -, -, rfl⟩ := toFunction_eq_ok.mp h
  exact ⟨conventions, rfl, ((checkParameters_eq_ok _ _ _ _).mp hcheck).2.1⟩

/-- What counts among the values of a record, when no known text does. -/
theorem countP_recordValues (texts : List String) (id : Option String) {P : Expression → Bool}
    (hliteral : ∀ text, P (.literal text) = false) :
    (event.recordValues texts id).countP P =
      (event.parameters.map (·.expression)).countP P +
        if id.isSome = true ∧ P .schemaVersion = true then 1 else 0 := by
  have htexts : (texts.map Expression.literal).countP P = 0 := by
    rw [List.countP_eq_zero, List.forall_mem_map]
    exact fun text _ => Bool.not_eq_true _ ▸ hliteral text
  have hmetadata : (metadataValues id).countP P =
      if id.isSome = true ∧ P .schemaVersion = true then 1 else 0 := by
    cases id <;> simp [metadataValues, List.countP_cons, hliteral]
  rw [recordValues, List.countP_append, List.countP_append, htexts, hmetadata, Nat.zero_add]

/-- The records and the parameters of a function refer to each other. -/
theorem closes_of_toFunction (h : event.toFunction options = .ok f) {version : Option String}
    (hversion : version.isSome = options.includeSchemaMetadata) :
    ∀ r ∈ f.records, f.Closes version r := by
  intro r hr
  obtain ⟨id, hid, hrecords⟩ := exists_recordValues h
  obtain ⟨texts, hvalues⟩ := hrecords r hr
  obtain ⟨conventions, hparameters, hnodup⟩ := exists_parameters h
  have hcount (P : Expression → Bool) (hliteral : ∀ text, P (.literal text) = false) :
      r.entries.countP (P ·.value) = (event.parameters.map (·.expression)).countP P +
        if version.isSome = true ∧ P .schemaVersion = true then 1 else 0 := by
    rw [hversion, ← hid, ← countP_recordValues texts id hliteral, ← hvalues, List.countP_map]
    rfl
  constructor
  · intro e he identifier type conversion hvalue
    have hmem : e.value ∈ r.entries.map (·.value) := List.mem_map_of_mem he
    rw [hvalues, hvalue] at hmem
    obtain ⟨p, hp, hexpression⟩ := exists_parameter_of_mem_recordValues hmem
    rw [hvalue, ← hexpression, hparameters]
    exact countP_definitions hnodup hp
  · intro d hd
    rw [hparameters, (event.parameterDefinitions_perm conventions).mem_iff, List.mem_map] at hd
    obtain ⟨p, hp, rfl⟩ := hd
    have hnone : ¬ (version.isSome = true ∧
        Expression.schemaVersion.refersTo (p.definition conventions) = true) := fun h => nomatch h.2
    rw [hcount (·.refersTo (p.definition conventions)) fun _ => rfl, countP_expressions hnodup hp,
      if_neg hnone]
  · have hparameter : (event.parameters.map (·.expression)).countP (· = .schemaVersion) = 0 := by
      rw [List.countP_eq_zero, List.forall_mem_map]
      exact fun p _ => by simp [Parameter.expression]
    rw [hcount (· = .schemaVersion) (by simp), hparameter]
    simp

end Event

namespace Schema

variable {schema : Schema} {options : Options} {source : SourceFile}

/-- **The functions of a source are closed**: their parameters have different identifiers, their
records refer to each of these once and to nothing else, and to the version of the schema once if
the source has it. -/
theorem closes_of_toSource (h : schema.toSource options = .ok source) :
    ∀ f ∈ source.functions, (f.parameters.map (·.identifier)).Nodup ∧
      ∀ r ∈ f.records, f.Closes source.schemaVersion r := by
  intro f hf
  obtain ⟨event, -, hevent⟩ := event_of_mem_functions h hf
  refine ⟨Event.identifiers_nodup hevent, Event.closes_of_toFunction hevent ?_⟩
  obtain ⟨_, _, -, -, -, rfl, -⟩ := toSource_eq_ok.mp h
  dsimp only
  split <;> simp [*]

/-- A schema with an event that is published, with a parameter of each kind: one with a default and
one without. -/
def rated : Schema where
  projectId := "shop"
  versionNumber := 2
  events := [{
    id := 9
    name := "item_rated"
    values := [{
      parameter := { name := "event_type", type := .named "kind", publishName := "type" },
      stringEnum := some "rating" }]
    parameters := [
      { name := "screen_name", type := .primitive .string, publishName := "screen" },
      { name := "stars", type := .primitive .integer, publishName := "stars" }] }]

/-- Both records of its function refer to both parameters, although these change places. -/
theorem closes_of_toSource_rated : ∃ source f published, rated.toSource {} = .ok source ∧
    source.functions = [f] ∧ f.parameters.map (·.identifier) = ["stars", "screenName"] ∧
    f.publish = some published ∧
    f.Closes (some "2") f.business ∧ f.Closes (some "2") published := by
  have hbuilt : (rated.toSource {}).map (fun s => (s.functions.map fun f =>
      (f.parameters.map (·.identifier), f.publish.isSome), s.schemaVersion)) =
      .ok ([(["stars", "screenName"], true)], some "2") := by
    decide +kernel
  obtain ⟨source, hsource, hfacts⟩ := map_eq_ok.mp hbuilt
  obtain ⟨hfunctions, hversion⟩ := Prod.mk.inj hfacts
  obtain ⟨f, hf, hfacts⟩ := List.map_eq_singleton_iff.mp hfunctions
  obtain ⟨hparameters, hpublish⟩ := Prod.mk.inj hfacts
  obtain ⟨published, hpublish⟩ := Option.isSome_iff_exists.mp hpublish
  obtain ⟨-, hcloses⟩ := closes_of_toSource hsource f (hf ▸ List.mem_singleton_self f)
  rw [hversion] at hcloses
  exact ⟨source, f, published, hsource, hf, hparameters, hpublish, hcloses _ List.mem_cons_self,
    hcloses _ (EventFunction.mem_records_of_publish hpublish)⟩

end Schema
end TrackingPlan
