import Mathlib.Data.List.InsertIdx
import TrackingPlan.Proofs.Source.Keys
import TrackingPlan.Proofs.Source.Refusals

/-!
# What the two records have in common

The published record is made from the event and not from the business record. Still it is the
business record without the entry of the event type, which gives it its name: the other entries
have the same values in the same order, under the publish names of what they are about.

Key definitions: `Value.SetsEventType`, `Event.subjects`, `Event.Retells`.
Key theorems: `Event.exists_place_of_eventType`, `Event.retells_of_literals`,
`Event.publish_retells`.
-/

namespace TrackingPlan

open Steps

/-- The value sets the event type. -/
def Value.SetsEventType (v : Value) (conventions : Conventions) : Prop :=
  .str v.parameter.name = conventions.eventTypeParameter

instance (v : Value) (conventions : Conventions) : Decidable (v.SetsEventType conventions) :=
  inferInstanceAs (Decidable (_ = _))

namespace Event

variable {event : Event} {options : Options} {conventions : Conventions} {f : EventFunction}
  {literals : List (Value × String)} {place : Nat}

/-- What the entries of a record are about, the metadata apart, when the value at a place is left
out: the parameters of the other values, then those of the function. -/
def subjects (event : Event) (place : Nat) : List Parameter :=
  (event.values.eraseIdx place).map (·.parameter) ++ event.parameters

/-- The published record says what the business record does, but for the entry of the only value
that sets the event type. That entry holds the name of the published record. -/
structure Retells (event : Event) (options : Options) (conventions : Conventions) (place : Nat)
    (business published : EventRecord) : Prop where
  eventType : ∃ v, event.values[place]? = some v ∧ v.SetsEventType conventions
  single : ∀ v ∈ event.values.eraseIdx place, ¬ v.SetsEventType conventions
  name : business.entries[place]? =
    some ⟨conventions.eventTypeParameter, .literal published.name⟩
  expressions : published.entries.map (·.value) = (business.entries.eraseIdx place).map (·.value)
  businessKeys : (business.entries.eraseIdx place).map (·.key) =
    (event.subjects place).map (.str ·.name) ++ metadataKeys options.includeSchemaMetadata
      conventions.businessEventIdKey conventions.businessSchemaVersionKey
  publishedKeys : published.entries.map (·.key) =
    (event.subjects place).map (.str ·.publishName) ++ metadataKeys options.includeSchemaMetadata
      conventions.publishEventIdKey conventions.publishSchemaVersionKey

/-! ### The place of the event type -/

/-- The only item with a property has a place, and the others are those at the other places. -/
theorem exists_place_of_filter {α : Type} {p : α → Bool} {l : List α} {a : α}
    (h : l.filter p = [a]) :
    ∃ place, l[place]? = some a ∧ l.filter (!p ·) = l.eraseIdx place := by
  obtain ⟨before, after, rfl, hbefore, ha, hafter⟩ := List.filter_eq_cons_iff.mp h
  rw [List.filter_eq_nil_iff] at hafter
  have hothers (xs : List α) (hxs : ∀ x ∈ xs, ¬ p x = true) : xs.filter (!p ·) = xs :=
    List.filter_eq_self.mpr fun x hx => by simpa using hxs x hx
  refine ⟨before.length, by simp, ?_⟩
  rw [List.filter_append, List.filter_cons_of_neg (by simp [ha]), hothers _ hbefore,
    hothers _ hafter, List.eraseIdx_append_of_length_le (Nat.le_refl _), Nat.sub_self,
    List.eraseIdx_cons_zero]

/-- The values with their texts have the texts of their payloads. -/
theorem literal_of_mem_literals (h : event.literals = .ok literals) {v : Value} {text : String}
    (hmem : (v, text) ∈ literals) : v.literal = .ok text := by
  obtain ⟨w, -, hpair⟩ := Pairing.exists_left (mapM_eq_ok.mp h) hmem
  obtain ⟨_, htext, heq⟩ := map_eq_ok.mp hpair
  obtain ⟨rfl, rfl⟩ := Prod.mk.inj heq
  exact htext

/-- An event with an event type has a place for it among the values with their texts. -/
theorem exists_place_of_eventType {type : String} (h : event.literals = .ok literals)
    (htype : event.eventType conventions = .ok (some type)) :
    ∃ place v, literals[place]? = some (v, type) ∧ v.SetsEventType conventions ∧
      literals.filter (fun (v, _) => .str v.parameter.name ≠ conventions.eventTypeParameter) =
        literals.eraseIdx place := by
  rcases eventType_eq_ok.mp htype with ⟨-, hnone⟩ | ⟨v, text, hvalues, hpayloads, heq⟩
  · exact nomatch hnone
  obtain rfl := Option.some.inj heq
  rw [eventTypeValues, ← values_of_literals h, List.filter_map] at hvalues
  obtain ⟨⟨w, text⟩, hfilter, rfl⟩ := List.map_eq_singleton_iff.mp hvalues
  have hmem : (w, text) ∈ literals.filter _ := hfilter ▸ List.mem_singleton_self (w, text)
  obtain ⟨hmem, hsets⟩ := List.mem_filter.mp hmem
  have htext : w.literal = .ok type := Value.literal_eq_ok.mpr ⟨.stringEnum, hpayloads⟩
  rw [literal_of_mem_literals h hmem] at htext
  obtain rfl := Except.ok.inj htext
  obtain ⟨place, hplace, hothers⟩ := exists_place_of_filter hfilter
  refine ⟨place, w, hplace, of_decide_eq_true hsets, hothers ▸ ?_⟩
  simp

/-! ### The records -/

/-- The parts of a record, from the values with their texts, under one of the names of each. -/
theorem keys_of_pairs (name : Parameter → String) (h : event.literals = .ok literals) :
    ((literals.eraseIdx place).map fun pair => Json.str (name pair.1.parameter)) ++
        event.parameters.map (fun p => .str (name p)) =
      (event.subjects place).map fun p => .str (name p) := by
  rw [subjects, ← values_of_literals h, List.eraseIdx_map, List.map_append, List.map_map,
    List.map_map]
  rfl

/-- **The published record retells the business record**, when both are made of the same texts. -/
theorem retells_of_literals {id : Option String} {type : String}
    (h : event.literals = .ok literals) (hid : id.isSome = options.includeSchemaMetadata)
    (htype : event.eventType conventions = .ok (some type)) : ∃ place,
    event.Retells options conventions place (event.businessRecord id conventions literals)
      (event.publishRecord id conventions type literals) := by
  obtain ⟨place, v, hplace, hsets, hothers⟩ := exists_place_of_eventType h htype
  obtain ⟨hlt, -⟩ := List.getElem?_eq_some_iff.mp hplace
  -- The place lies among the values, so only they are touched when its entry is left out.
  have herase : (event.businessRecord id conventions literals).entries.eraseIdx place =
      ((literals.eraseIdx place).map fun (v, text) => ⟨.str v.parameter.name, .literal text⟩) ++
        (event.parameters.map fun p => ⟨.str p.name, p.expression⟩) ++
        metadata id conventions.businessEventIdKey conventions.businessSchemaVersionKey := by
    rw [businessRecord, List.append_assoc, List.append_assoc,
      List.eraseIdx_append_of_lt_length (by simpa using hlt), List.eraseIdx_map]
  refine ⟨place, ⟨v, ?_, hsets⟩, ?_, ?_, ?_, ?_, ?_⟩
  · rw [← values_of_literals h, List.getElem?_map, hplace, Option.map_some]
  · intro w hw
    rw [← values_of_literals h, List.eraseIdx_map, ← hothers] at hw
    obtain ⟨pair, hpair, rfl⟩ := List.mem_map.mp hw
    exact of_decide_eq_true (List.mem_filter.mp hpair).2
  · rw [businessRecord, List.append_assoc, List.getElem?_append_left (by simpa using hlt),
      List.getElem?_map, hplace, ← hsets]
    rfl
  · rw [herase, publishRecord, hothers]
    simp only [List.map_append, List.map_map, values_metadata]
    rfl
  · rw [herase, ← keys_of_pairs (·.name) h, ← hid]
    simp only [List.map_append, List.map_map, keys_metadata]
    rfl
  · rw [publishRecord, hothers, ← keys_of_pairs (·.publishName) h, ← hid]
    simp only [List.map_append, List.map_map, keys_metadata]
    rfl

/-- There is an event type exactly when some value sets it. -/
theorem eventType_isSome_iff {type : Option String} (h : event.eventType conventions = .ok type) :
    type.isSome ↔ ∃ v ∈ event.values, v.SetsEventType conventions := by
  have hmem (v : Value) : v ∈ event.eventTypeValues conventions ↔
      v ∈ event.values ∧ v.SetsEventType conventions := by
    rw [eventTypeValues, List.mem_filter, decide_eq_true_iff]
    rfl
  simp only [← hmem]
  rcases eventType_eq_ok.mp h with ⟨hvalues, rfl⟩ | ⟨v, text, hvalues, -, rfl⟩
  · simp [hvalues]
  · simp [hvalues]

/-- **The two records of a function tell the same**: there is a published one exactly when a value
sets the event type, and it retells the business record. -/
theorem publish_retells (h : event.toFunction options = .ok f) :
    ∃ conventions, options.conventions = .ok conventions ∧
      (f.publish.isSome ↔ ∃ v ∈ event.values, v.SetsEventType conventions) ∧
      ∀ published, f.publish = some published →
        ∃ place, event.Retells options conventions place f.business published := by
  obtain ⟨conventions, eventType, literals, id, _, hconventions, -, htype, -, hliterals, hid, -,
    rfl⟩ := toFunction_eq_ok.mp h
  refine ⟨conventions, hconventions, ?_, ?_⟩
  · rw [Option.isSome_map]
    exact eventType_isSome_iff htype
  · intro published hpublished
    obtain ⟨type, rfl, rfl⟩ := Option.map_eq_some_iff.mp hpublished
    exact retells_of_literals hliterals (isSome_of_idText hid) htype

/-- An event whose event type stands between two values that are the same. -/
def doubled : Event where
  id := 5
  name := "Element tap"
  values := [
    { parameter := { name := "source", type := .primitive .string, publishName := "origin" },
      string := some "map" },
    { parameter := { name := "event_type", type := .named "kind", publishName := "type" },
      stringEnum := some "tap" },
    { parameter := { name := "source", type := .primitive .string, publishName := "origin" },
      string := some "map" }]
  parameters := [{ name := "result", type := .primitive .integer, publishName := "count" }]

/-- Its published record is named by the event type and retells all the rest. -/
theorem publish_retells_doubled : ∃ f published place, doubled.toFunction {} = .ok f ∧
    f.publish = some published ∧ published.name = "tap" ∧
    doubled.Retells {} {} place f.business published := by
  have hmade : (doubled.toFunction {}).map (·.publish.map (·.name)) = .ok (some "tap") := by
    decide +kernel
  obtain ⟨f, hf, hname⟩ := map_eq_ok.mp hmade
  obtain ⟨published, hpublish, hname⟩ := Option.map_eq_some_iff.mp hname
  obtain ⟨conventions, hconventions, -, hretells⟩ := publish_retells hf
  obtain rfl : {} = conventions := Except.ok.inj hconventions
  obtain ⟨place, h⟩ := hretells published hpublish
  exact ⟨f, published, place, hf, hpublish, hname, h⟩

end Event
end TrackingPlan
