import Mathlib.Data.List.Nodup
import TrackingPlan.Proofs.Steps
import TrackingPlan.Source.Function

/-!
# What the function of an event holds

All that an event goes through before it becomes a function, in one statement
(`Event.toFunction_eq_ok`), and what follows from it for the parameters: their identifiers differ,
and the records refer to no other parameters.

Key definitions: `EventFunction.records`, `Event.recordValues`, `Entry.Closed`.
Key theorems: `Event.checkParameters_eq_ok`, `Event.toFunction_eq_ok`,
`Event.identifiers_nodup`, `Event.exists_recordValues`, `Event.closed_of_toFunction`.
-/

namespace TrackingPlan

open Naming Steps

variable {event : Event} {options : Options} {f : EventFunction}

namespace Event

/-- The parameters are accepted exactly when neither their names nor their identifiers repeat
each other or those before them. -/
theorem checkParameters_eq_ok (event : String) : ∀ (names identifiers : List String)
    (ps : List Parameter), checkParameters event names identifiers ps = .ok () ↔
      ((ps.map (·.name)).Nodup ∧ ∀ p ∈ ps, p.name ∉ names) ∧
      (ps.map (parameterName ·.name)).Nodup ∧ ∀ p ∈ ps, parameterName p.name ∉ identifiers
  | _, _, [] => by simp [checkParameters]
  | names, identifiers, p :: rest => by
    have ih := checkParameters_eq_ok event (p.name :: names)
      (parameterName p.name :: identifiers) rest
    simp only [checkParameters, List.map_cons, List.nodup_cons, List.mem_map, List.mem_cons,
      forall_eq_or_imp] at ih ⊢
    split
    · rename_i hname
      simp [hname]
    · rename_i hname
      split
      · rename_i hid
        simp [hid]
      · rename_i hid
        rw [ih]
        grind

/-- All the steps from an event to its function. -/
theorem toFunction_eq_ok :
    event.toFunction options = .ok f ↔
      ∃ conventions eventType literals id marker,
        options.conventions = .ok conventions ∧
        checkParameters event.name [] [] event.parameters = .ok () ∧
        event.eventType conventions = .ok eventType ∧
        event.requireEventType options eventType = .ok () ∧
        event.literals = .ok literals ∧
        event.idText options.includeSchemaMetadata = .ok id ∧
        tagMarker conventions = .ok marker ∧
        f = {
          identifier := functionName event.name
          description := event.description
          eventId := event.id
          parameters := event.parameterDefinitions conventions
          business := event.businessRecord id conventions literals
          publish := eventType.map fun name => event.publishRecord id conventions name literals
          consumerTags := event.consumerTags marker } := by
  unfold toFunction
  cases hc : options.conventions with
  | error v =>
    simp only [bind_eq_ok, reduceCtorEq, false_and, exists_false, iff_false, not_exists, not_and]
    intro _ _
    split <;> simp
  | ok conventions =>
    simp only [bind_eq_ok, toFunctionUnder, pure_eq_ok, Except.ok.injEq]
    constructor
    · rintro ⟨_, hcheck, eventType, htype, _, hrequire, literals, hliterals, id, hid, marker,
        hmarker, hf⟩
      exact ⟨conventions, eventType, literals, id, marker, rfl, hcheck, htype, hrequire, hliterals,
        hid, hmarker, hf.symm⟩
    · rintro ⟨_, eventType, literals, id, marker, hc', hcheck, htype, hrequire, hliterals, hid,
        hmarker, hf⟩
      subst hc'
      exact ⟨(), hcheck, eventType, htype, (), hrequire, literals, hliterals, id, hid, marker,
        hmarker, hf.symm⟩

/-- The id has a text just where the records carry it. -/
theorem isSome_of_idText {included : Bool} {id : Option String}
    (h : event.idText included = .ok id) : id.isSome = included := by
  cases included with
  | false => exact Except.ok.inj h ▸ rfl
  | true =>
    obtain ⟨text, -, rfl⟩ := map_eq_ok.mp h
    rfl

/-! ### The parameters -/

/-- The definitions are those of the parameters of the event in another order. -/
theorem parameterDefinitions_perm (event : Event) (conventions : Conventions) :
    (event.parameterDefinitions conventions).Perm
      (event.parameters.map (·.definition conventions)) := by
  refine List.perm_append_comm.trans ?_
  exact List.filter_append_perm (·.hasDefault) (event.parameters.map (·.definition conventions))

theorem identifiers_perm (event : Event) (conventions : Conventions) :
    ((event.parameterDefinitions conventions).map (·.identifier)).Perm
      (event.parameters.map (parameterName ·.name)) := by
  have h := (event.parameterDefinitions_perm conventions).map (·.identifier)
  rwa [List.map_map] at h

/-- No two parameters of a function have the same identifier. -/
theorem identifiers_nodup (h : event.toFunction options = .ok f) :
    (f.parameters.map (·.identifier)).Nodup := by
  obtain ⟨conventions, _, _, _, _, -, hcheck, -, -, -, -, -, rfl⟩ := toFunction_eq_ok.mp h
  have hnodup := ((checkParameters_eq_ok _ _ _ _).mp hcheck).2.1
  exact (event.identifiers_perm conventions).nodup_iff.mpr hnodup

end Event

/-! ### The records -/

/-- The records of a function: the business record, then the published one. -/
def EventFunction.records (f : EventFunction) : List EventRecord := f.business :: f.publish.toList

/-- What is printed for the records of a function, each under a key of its own. -/
theorem EventFunction.records_printed {ρ κ ε : Type} {f : EventFunction}
    {record : EventRecord → ρ} {print : ρ → Except ε String} {business : String}
    {publish : Option String} (key key' : κ) (hbusiness : print (record f.business) = .ok business)
    (hpublish : (f.publish.map record).mapM print = .ok publish) :
    List.Forall₂ (fun r (a : κ × String) => print (record r) = .ok a.2) f.records
      ([(key, business)] ++ (publish.map fun text => (key', text)).toList) := by
  refine .cons hbusiness ?_
  cases hp : f.publish with
  | none =>
    rw [hp] at hpublish
    obtain rfl := Except.ok.inj hpublish
    exact .nil
  | some r =>
    rw [hp, Option.map_some, optionMapM_eq_ok] at hpublish
    cases hpublish with
    | some hprint => exact .cons hprint .nil

theorem EventFunction.mem_records_of_publish {r : EventRecord} (h : f.publish = some r) :
    r ∈ f.records := by
  rw [records, h]
  exact List.mem_cons_of_mem _ List.mem_cons_self

namespace Event

/-- The values of the metadata, if there is any. -/
def metadataValues (id : Option String) : List Expression :=
  id.elim [] fun text => [.literal text, .schemaVersion]

theorem values_metadata (id : Option String) (idKey versionKey : Json) :
    (metadata id idKey versionKey).map (·.value) = metadataValues id := by
  cases id <;> rfl

/-- The values of a record with some texts known in advance. -/
def recordValues (event : Event) (texts : List String) (id : Option String) : List Expression :=
  texts.map .literal ++ event.parameters.map (·.expression) ++ metadataValues id

/-- The only parameters among the values are those of the event. -/
theorem exists_parameter_of_mem_recordValues {texts : List String} {id : Option String}
    {identifier : String} {type : ParameterType} {conversion : Conversion}
    (h : .parameter identifier type conversion ∈ event.recordValues texts id) :
    ∃ p ∈ event.parameters, p.expression = .parameter identifier type conversion := by
  rw [recordValues, List.mem_append, List.mem_append] at h
  rcases h with (h | h) | h
  · obtain ⟨_, -, htext⟩ := List.mem_map.mp h
    exact nomatch htext
  · exact List.mem_map.mp h
  · cases id <;> simp [metadataValues] at h

/-- **All records of a function have the same values**, but for the texts known in advance. -/
theorem exists_recordValues (h : event.toFunction options = .ok f) :
    ∃ id : Option String, id.isSome = options.includeSchemaMetadata ∧ ∀ r ∈ f.records,
      ∃ texts, r.entries.map (·.value) = event.recordValues texts id := by
  obtain ⟨conventions, eventType, literals, id, _, -, -, -, -, -, hid, -, rfl⟩ :=
    toFunction_eq_ok.mp h
  refine ⟨id, isSome_of_idText hid, fun r hr => ?_⟩
  rcases List.mem_cons.mp hr with rfl | hr
  · refine ⟨literals.map (·.2), ?_⟩
    simp only [businessRecord, recordValues, List.map_append, List.map_map, values_metadata]
    rfl
  · obtain ⟨name, -, rfl⟩ := Option.map_eq_some_iff.mp (Option.mem_toList.mp hr)
    refine ⟨(literals.filter fun pair =>
      .str pair.1.parameter.name ≠ conventions.eventTypeParameter).map (·.2), ?_⟩
    simp only [publishRecord, recordValues, List.map_append, List.map_map, values_metadata]
    rfl

end Event

/-- An entry whose value, if it is a parameter, is one of the parameters of the function, converted
the way its type asks for. -/
def Entry.Closed (f : EventFunction) (e : Entry) : Prop :=
  ∀ {identifier type conversion}, e.value = .parameter identifier type conversion →
    conversion = type.conversion ∧
      ∃ p ∈ f.parameters, p.identifier = identifier ∧ p.type = type

/-- **The records refer to parameters of the function only.** -/
theorem Event.closed_of_toFunction (h : event.toFunction options = .ok f) :
    ∀ r ∈ f.records, ∀ e ∈ r.entries, e.Closed f := by
  intro r hr e he identifier type conversion hvalue
  obtain ⟨_, -, hrecords⟩ := exists_recordValues h
  obtain ⟨texts, hvalues⟩ := hrecords r hr
  have hmem : e.value ∈ r.entries.map (·.value) := List.mem_map_of_mem he
  rw [hvalues, hvalue] at hmem
  obtain ⟨p, hp, hexpression⟩ := exists_parameter_of_mem_recordValues hmem
  obtain ⟨rfl, rfl, rfl⟩ := Expression.parameter.inj hexpression
  obtain ⟨conventions, _, _, _, _, -, -, -, -, -, -, -, rfl⟩ := toFunction_eq_ok.mp h
  refine ⟨rfl, p.definition conventions, ?_, rfl, rfl⟩
  exact (event.parameterDefinitions_perm conventions).mem_iff.mpr (List.mem_map_of_mem hp)

end TrackingPlan
