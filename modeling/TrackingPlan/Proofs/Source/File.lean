import TrackingPlan.Proofs.Pairing
import TrackingPlan.Proofs.Source.Function
import TrackingPlan.Proofs.Source.Payloads
import TrackingPlan.Source.File

/-!
# What the source file of a schema holds

A source file has the function of every event and the enumeration of every type that lists its
strings, in order. It is free of conflicts exactly when its functions, its enumerations and the
constants of each enumeration have different identifiers.

Key definition: `Enumeration.IsOf`.
Key theorems: `Schema.toSource_eq_ok`, `SourceFile.conflicts_eq_nil`, `Schema.enums_areOf`,
`Schema.closed_of_toSource`.
-/

namespace TrackingPlan

open Naming Steps

theorem repeated_eq_nil {names : List String} : repeated names = [] ↔ names.Nodup := by
  simp only [repeated, List.filter_eq_nil_iff, List.mem_eraseDups, decide_eq_true_eq, Nat.not_lt,
    List.nodup_iff_count_le_one]
  constructor
  · intro h n
    by_cases hn : n ∈ names
    · exact h n hn
    · rw [List.count_eq_zero.mpr hn]
      exact Nat.zero_le 1
  · exact fun h n _ => h n

/-- A source file without conflicts keeps the identifiers of each space apart. -/
theorem SourceFile.conflicts_eq_nil {s : SourceFile} : s.conflicts = [] ↔
    (s.functions.map (·.identifier)).Nodup ∧ (s.enums.map (·.identifier)).Nodup ∧
      ∀ e ∈ s.enums, (e.constants.map (·.identifier)).Nodup := by
  simp only [conflicts, List.append_eq_nil_iff, List.map_eq_nil_iff, repeated_eq_nil,
    List.flatMap_eq_nil_iff, Enumeration.repeatedConstants, and_assoc]

/-- The enumeration is that of a type: it has the name of the type, and a constant for each of its
strings. -/
structure Enumeration.IsOf (t : SchemaType) (e : Enumeration) : Prop where
  identifier : e.identifier = typeName t.name
  constants : ∃ strings, t.stringEnum = some strings ∧
    e.constants = strings.map fun s => ⟨constantName s, s⟩

theorem Enumeration.isOf_of_toEnumeration? {t : SchemaType} {conventions : Conventions}
    {e : Enumeration} (h : t.toEnumeration? conventions = some e) : e.IsOf t := by
  obtain ⟨strings, hstrings, rfl⟩ := Option.map_eq_some_iff.mp h
  exact ⟨rfl, strings, hstrings, rfl⟩

namespace Schema

variable {schema : Schema} {options : Options} {source : SourceFile}

/-- All the steps from a schema to its source file. -/
theorem toSource_eq_ok : schema.toSource options = .ok source ↔
    ∃ functions enums,
      List.Forall₂ (fun e f => Event.toFunction e options = .ok f) schema.events functions ∧
      schema.enumerations options = .ok enums ∧
      digitCount schema.versionNumber ≤ maxIntegerDigits ∧
      source = {
        headerLines := schema.headerLines (toString schema.versionNumber)
        objectName := options.outputClassName
        functions
        enums
        schemaVersion :=
          if options.includeSchemaMetadata then some (toString schema.versionNumber) else none } ∧
      (options.strictIdentifiers → source.conflicts = []) := by
  simp only [toSource, toLenientSource, bind_eq_ok, mapM_eq_ok, pure_eq_ok,
    BuildError.integerText_eq_ok]
  constructor
  · rintro ⟨lenient, ⟨functions, hf, enums, he, _, ⟨hshort, rfl⟩, rfl⟩, h⟩
    refine ⟨functions, enums, hf, he, hshort, ?_⟩
    split at h
    · split at h
      · exact absurd h throw_ne_ok
      · rename_i hconf
        exact ⟨(pure_eq_ok.mp h).symm, fun _ => pure_eq_ok.mp h ▸ hconf⟩
    · rename_i hstrict
      exact ⟨(pure_eq_ok.mp h).symm, fun hs => absurd hs hstrict⟩
  · rintro ⟨functions, enums, hf, he, hshort, rfl, h⟩
    refine ⟨_, ⟨functions, hf, enums, he, _, ⟨hshort, rfl⟩, rfl⟩, ?_⟩
    split
    · rename_i hstrict
      rw [h hstrict]
      rfl
    · rfl

/-- Every function of a source file is that of an event. -/
theorem event_of_mem_functions (h : schema.toSource options = .ok source) {f : EventFunction}
    (hf : f ∈ source.functions) : ∃ event ∈ schema.events, event.toFunction options = .ok f := by
  obtain ⟨functions, enums, hall, -, -, rfl, -⟩ := toSource_eq_ok.mp h
  exact Pairing.exists_left hall hf

/-- The enumerations of a source are made of types that list their strings, under conventions. -/
theorem enums_of_toSource (h : schema.toSource options = .ok source) :
    ∃ conventions, source.enums = schema.types.filterMap (·.toEnumeration? conventions) := by
  obtain ⟨functions, enums, -, henums, -, rfl, -⟩ := toSource_eq_ok.mp h
  unfold enumerations at henums
  split at henums
  · exact ⟨_, (Except.ok.inj henums).symm⟩
  · dsimp only at henums
    split at henums
    · exact nomatch henums
    · exact ⟨{}, (Except.ok.inj henums).symm⟩

/-- **The enumerations of a source are those of the types that list their strings**, in order. -/
theorem enums_areOf (h : schema.toSource options = .ok source) :
    List.Forall₂ Enumeration.IsOf schema.enumTypes source.enums := by
  obtain ⟨conventions, henums⟩ := enums_of_toSource h
  have hlists (t : SchemaType) : t.stringEnum.isSome = (t.toEnumeration? conventions).isSome :=
    Option.isSome_map.symm
  rw [henums]
  exact (Pairing.of_filterMap hlists schema.types).imp fun _ _ =>
    Enumeration.isOf_of_toEnumeration?

/-- The records of every function refer to its own parameters only. -/
theorem closed_of_toSource (h : schema.toSource options = .ok source) :
    ∀ f ∈ source.functions, ∀ r ∈ f.records, ∀ e ∈ r.entries, e.Closed f := by
  intro f hf
  obtain ⟨event, -, hevent⟩ := event_of_mem_functions h hf
  exact Event.closed_of_toFunction hevent

end Schema
end TrackingPlan
