import TrackingPlan.Proofs.Pairing
import TrackingPlan.Proofs.Source.Function

/-!
# The keys of records

The keys of a record come from three places: the values of the event, its parameters and the
metadata. Only the parameters are checked, and only by the names that the business record has them
under. Where two entries have one key, a map that is made of the entries holds the last of them,
while a look at the record finds the first one.

Key definitions: `EventRecord.held?`, `KeySources`, `KeySources.Apart`, `Event.businessKeys`,
`Event.publishKeys`.
Key theorems: `EventRecord.get?_eq_held?`, `KeySources.nodup_iff`, `Event.keys_nodup_iff`.
-/

namespace TrackingPlan

open Steps

/-! ### The entries of a record -/

namespace EventRecord

variable {r : EventRecord} {key : String} {e : Entry}

/-- The value that a map made of the entries holds under a key: that of the last entry with it. -/
def held? (r : EventRecord) (key : String) : Option Expression :=
  (r.entries.reverse.find? (·.key = .str key)).map (·.value)

/-- Among entries with different keys the first with a key is the only one. -/
theorem find?_of_nodup : ∀ {es : List Entry}, (es.map (·.key)).Nodup → e ∈ es → e.key = .str key →
    es.find? (·.key = .str key) = some e
  | [], _, he, _ => absurd he List.not_mem_nil
  | first :: rest, hnodup, he, hkey => by
    obtain ⟨hfresh, hnodup⟩ := List.nodup_cons.mp hnodup
    rcases List.mem_cons.mp he with rfl | hrest
    · exact List.find?_cons_of_pos (decide_eq_true hkey)
    · have hother : first.key ≠ .str key := by
        intro hfirst
        have hkeys : e.key ∈ rest.map (·.key) := List.mem_map_of_mem hrest
        rw [hkey, ← hfirst] at hkeys
        exact hfresh hkeys
      rw [List.find?_cons_of_neg (by simpa using hother)]
      exact find?_of_nodup hnodup hrest hkey

/-- An entry of a record with different keys is found under its key, and a map holds it. -/
theorem get?_and_held?_of_mem (h : r.keys.Nodup) (he : e ∈ r.entries) (hkey : e.key = .str key) :
    r.get? key = some e.value ∧ r.held? key = some e.value := by
  have hreverse : (r.entries.reverse.map (·.key)).Nodup := by
    rw [List.map_reverse]
    exact List.nodup_reverse.mpr h
  constructor
  · rw [get?, find?_of_nodup h he hkey]
    rfl
  · rw [held?, find?_of_nodup hreverse (List.mem_reverse.mpr he) hkey]
    rfl

/-- **A record with different keys says what a map made of it holds.** -/
theorem get?_eq_held? (h : r.keys.Nodup) (key : String) : r.get? key = r.held? key := by
  by_cases hmem : ∃ e ∈ r.entries, e.key = .str key
  · obtain ⟨e, he, hkey⟩ := hmem
    obtain ⟨hget, hheld⟩ := get?_and_held?_of_mem h he hkey
    rw [hget, hheld]
  · have hnone : ∀ e ∈ r.entries, ¬ decide (e.key = .str key) := fun e he hkey =>
      hmem ⟨e, he, of_decide_eq_true hkey⟩
    rw [get?, held?, List.find?_eq_none.mpr hnone,
      List.find?_eq_none.mpr fun e he => hnone e (List.mem_reverse.mp he)]

end EventRecord

/-! ### Where keys come from -/

/-- Where the keys of a record come from. -/
structure KeySources where
  values : List String
  parameters : List String
  metadata : List Json

namespace KeySources

/-- All keys, in the order of the record. -/
def keys (k : KeySources) : List Json := k.values.map .str ++ k.parameters.map .str ++ k.metadata

/-- No key comes twice, neither from one place nor from two. -/
structure Apart (k : KeySources) : Prop where
  values : k.values.Nodup
  parameters : k.parameters.Nodup
  metadata : k.metadata.Nodup
  value_parameter : ∀ name ∈ k.values, name ∉ k.parameters
  value_metadata : ∀ name ∈ k.values, .str name ∉ k.metadata
  parameter_metadata : ∀ name ∈ k.parameters, .str name ∉ k.metadata

/-- Keys are different exactly when their sources are kept apart. -/
theorem nodup_iff (k : KeySources) : k.keys.Nodup ↔ k.Apart := by
  have hinjective : Function.Injective Json.str := fun _ _ h => Json.str.inj h
  rw [keys, List.nodup_append', List.nodup_append', List.nodup_map_iff hinjective,
    List.nodup_map_iff hinjective, List.disjoint_append_left]
  simp only [List.disjoint_left, List.forall_mem_map, List.mem_map_of_injective hinjective]
  constructor
  · rintro ⟨⟨hvalues, hparameters, hvp⟩, hmetadata, hvm, hpm⟩
    exact ⟨hvalues, hparameters, hmetadata, hvp, hvm, hpm⟩
  · rintro ⟨hvalues, hparameters, hmetadata, hvp, hvm, hpm⟩
    exact ⟨⟨hvalues, hparameters, hvp⟩, hmetadata, hvm, hpm⟩

end KeySources

namespace Event

variable {event : Event} {options : Options} {conventions : Conventions} {f : EventFunction}
  {literals : List (Value × String)}

/-- The keys of the metadata, if there is any. -/
def metadataKeys (included : Bool) (idKey versionKey : Json) : List Json :=
  if included then [idKey, versionKey] else []

/-- Where the keys of the business record come from. -/
def businessKeys (event : Event) (options : Options) (conventions : Conventions) : KeySources where
  values := event.values.map (·.parameter.name)
  parameters := event.parameters.map (·.name)
  metadata := metadataKeys options.includeSchemaMetadata conventions.businessEventIdKey
    conventions.businessSchemaVersionKey

/-- Where the keys of the published record come from. -/
def publishKeys (event : Event) (options : Options) (conventions : Conventions) : KeySources where
  values :=
    (event.values.filter fun v => .str v.parameter.name ≠ conventions.eventTypeParameter).map
      (·.parameter.publishName)
  parameters := event.parameters.map (·.publishName)
  metadata := metadataKeys options.includeSchemaMetadata conventions.publishEventIdKey
    conventions.publishSchemaVersionKey

/-- The values with their texts are the values of the event. -/
theorem values_of_literals (h : event.literals = .ok literals) :
    literals.map (·.1) = event.values := by
  refine (Pairing.eq_map (mapM_eq_ok.mp h).flip fun hpair => ?_).symm
  obtain ⟨text, -, rfl⟩ := map_eq_ok.mp hpair
  rfl

theorem keys_metadata (id : Option String) (idKey versionKey : Json) :
    (metadata id idKey versionKey).map (·.key) = metadataKeys id.isSome idKey versionKey := by
  cases id <;> rfl

theorem keys_businessRecord {id : Option String} (h : event.literals = .ok literals)
    (hid : id.isSome = options.includeSchemaMetadata) :
    (event.businessRecord id conventions literals).keys =
      (event.businessKeys options conventions).keys := by
  rw [EventRecord.keys, businessRecord, KeySources.keys, businessKeys, ← values_of_literals h,
    ← hid]
  simp only [List.map_append, List.map_map, keys_metadata]
  rfl

theorem keys_publishRecord {id : Option String} {name : String}
    (h : event.literals = .ok literals) (hid : id.isSome = options.includeSchemaMetadata) :
    (event.publishRecord id conventions name literals).keys =
      (event.publishKeys options conventions).keys := by
  rw [EventRecord.keys, publishRecord, KeySources.keys, publishKeys, ← values_of_literals h, ← hid]
  simp only [List.map_append, List.map_map, List.filter_map, keys_metadata]
  rfl

/-- **The keys of a record differ exactly when the three places they come from are kept apart**,
and then each entry is found in the record and in the map that is made of it. Of all this an event
with a function has only different names for its parameters. -/
theorem keys_nodup_iff (h : event.toFunction options = .ok f) :
    ∃ conventions, options.conventions = .ok conventions ∧
      (event.parameters.map (·.name)).Nodup ∧
      (f.business.keys.Nodup ↔ (event.businessKeys options conventions).Apart) ∧
      (∀ r, f.publish = some r →
        (r.keys.Nodup ↔ (event.publishKeys options conventions).Apart)) ∧
      ∀ r ∈ f.records, r.keys.Nodup → ∀ key, r.get? key = r.held? key ∧
        ∀ e ∈ r.entries, e.key = .str key → r.get? key = some e.value := by
  obtain ⟨conventions, eventType, literals, id, _, hconventions, hcheck, -, -, hliterals, hid, -,
    rfl⟩ := toFunction_eq_ok.mp h
  have hid := isSome_of_idText hid
  refine ⟨conventions, hconventions, ((checkParameters_eq_ok _ _ _ _).mp hcheck).1.1, ?_, ?_, ?_⟩
  · rw [keys_businessRecord hliterals hid, KeySources.nodup_iff]
  · intro r hr
    obtain ⟨name, -, rfl⟩ := Option.map_eq_some_iff.mp hr
    rw [keys_publishRecord hliterals hid, KeySources.nodup_iff]
  · exact fun r _ hnodup key => ⟨r.get?_eq_held? hnodup key, fun e he hkey =>
      (EventRecord.get?_and_held?_of_mem hnodup he hkey).1⟩

/-- An event with an event type, a value, a parameter and the metadata. -/
def purchase : Event where
  id := 3
  name := "Purchase"
  values := [
    { parameter := { name := "event_type", type := .named "kind", publishName := "type" },
      stringEnum := some "bought" },
    { parameter := { name := "channel", type := .primitive .string, publishName := "channel" },
      string := some "app" }]
  parameters := [{ name := "price", type := .primitive .integer, publishName := "amount" }]

theorem keys_nodup_iff_purchase : ∃ f r, purchase.toFunction {} = .ok f ∧ f.publish = some r ∧
    f.business.keys.Nodup ∧ r.keys.Nodup ∧ r.get? "channel" = r.held? "channel" := by
  have hmade : (purchase.toFunction {}).map (·.publish.isSome) = .ok true := by decide +kernel
  obtain ⟨f, hf, hpublish⟩ := map_eq_ok.mp hmade
  obtain ⟨r, hr⟩ := Option.isSome_iff_exists.mp hpublish
  obtain ⟨conventions, hconventions, -, hbusiness, hpublished, hrecords⟩ := keys_nodup_iff hf
  obtain rfl : {} = conventions := Except.ok.inj hconventions
  have hkeys := hbusiness.mpr ⟨by decide, by decide, by decide, by decide, by decide, by decide⟩
  have hkeys' := (hpublished r hr).mpr
    ⟨by decide, by decide, by decide, by decide, by decide, by decide⟩
  exact ⟨f, r, hf, hr, hkeys, hkeys',
    (hrecords r (EventFunction.mem_records_of_publish hr) hkeys' "channel").1⟩

/-- An event with a value and a parameter of one name. -/
def shared : Event where
  id := 7
  name := "Open"
  values := [
    { parameter := { name := "source", type := .primitive .string, publishName := "source" },
      string := some "map" }]
  parameters := [{ name := "source", type := .primitive .string, publishName := "source" }]

/-- The value of an event can be lost to a parameter, while the record still shows it. -/
theorem parameter_hides_value : ∃ f, shared.toFunction {} = .ok f ∧ ¬ f.business.keys.Nodup ∧
    f.business.get? "source" = some (.literal "map") ∧
    f.business.held? "source" = some (.parameter "source" (.primitive .string) .identity) := by
  have hmade : (shared.toFunction {}).map (fun f => (decide f.business.keys.Nodup,
      f.business.get? "source", f.business.held? "source")) = .ok (false, some (.literal "map"),
        some (.parameter "source" (.primitive .string) .identity)) := by
    decide +kernel
  obtain ⟨f, hf, hfacts⟩ := map_eq_ok.mp hmade
  simp only [Prod.mk.injEq, decide_eq_false_iff_not] at hfacts
  exact ⟨f, hf, hfacts⟩

end Event
end TrackingPlan
