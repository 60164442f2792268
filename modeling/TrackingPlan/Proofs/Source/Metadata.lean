import TrackingPlan.Proofs.Failure
import TrackingPlan.Proofs.Source.File

/-!
# What the metadata add

Of two runs that differ only in whether the records carry metadata, either both fail, and for the
same reason, or both build a source file. The files differ in the version of the schema, and in two
more entries at the end of every record; nothing else depends on the switch, and no identifier does,
so that both have the same conflicts. An id is written only where there are metadata: one that has
too many digits is a reason for that run alone to fail.

Key definitions: `Options.withMetadata`, `EventFunction.withMetadata`, `SourceFile.AddsMetadata`,
`Schema.HasLongId`.
Key theorems: `Event.toFunction_metadata`, `Event.toFunction_breaks`, `Schema.toSource_parallel`,
`Schema.toSource_breaks`, `Schema.toSource_metadata`.
-/

namespace TrackingPlan

open Steps

/-- The options with metadata in the records, or without. -/
def Options.withMetadata (o : Options) (included : Bool) : Options :=
  { o with includeSchemaMetadata := included }

/-- The record with the id of an event and the version of the schema as its last entries. -/
def EventRecord.withMetadata (r : EventRecord) (id : Int) (idKey versionKey : Json) : EventRecord :=
  { r with entries := r.entries ++
      [⟨idKey, .literal (toString id)⟩, ⟨versionKey, .schemaVersion⟩] }

/-- The function with the metadata of its event in its records, under the keys that the conventions
have for either. -/
def EventFunction.withMetadata (f : EventFunction) (conventions : Conventions) : EventFunction :=
  { f with
    business := f.business.withMetadata f.eventId conventions.businessEventIdKey
      conventions.businessSchemaVersionKey
    publish := f.publish.map fun r => r.withMetadata f.eventId conventions.publishEventIdKey
      conventions.publishSchemaVersionKey }

/-- The second function is the first one with its metadata, under the conventions of the options. -/
def EventFunction.AddsMetadata (options : Options) (f g : EventFunction) : Prop :=
  ∃ conventions, options.conventions = .ok conventions ∧ g = f.withMetadata conventions

/-- The second file is the first one, which has no metadata, with the version of the schema and with
the metadata of every event in the records of its function. -/
structure SourceFile.AddsMetadata (schema : Schema) (options : Options) (plain full : SourceFile) :
    Prop where
  headerLines : full.headerLines = plain.headerLines
  objectName : full.objectName = plain.objectName
  enums : full.enums = plain.enums
  no_version : plain.schemaVersion = none
  version : full.schemaVersion = some (toString schema.versionNumber)
  functions : List.Forall₂ (EventFunction.AddsMetadata options) plain.functions full.functions

variable {schema : Schema} {options : Options} {event : Event} {plain full : SourceFile}

/-! ### One event -/

namespace Event

theorem businessRecord_withMetadata (event : Event) (conventions : Conventions)
    (literals : List (Value × String)) :
    event.businessRecord (some (toString event.id)) conventions literals =
      (event.businessRecord none conventions literals).withMetadata event.id
        conventions.businessEventIdKey conventions.businessSchemaVersionKey := by
  simp [businessRecord, metadata, EventRecord.withMetadata]

theorem publishRecord_withMetadata (event : Event) (conventions : Conventions) (name : String)
    (literals : List (Value × String)) :
    event.publishRecord (some (toString event.id)) conventions name literals =
      (event.publishRecord none conventions name literals).withMetadata event.id
        conventions.publishEventIdKey conventions.publishSchemaVersionKey := by
  simp [publishRecord, metadata, EventRecord.withMetadata]

/-- The id of the event has too many digits. -/
def HasLongId (event : Event) : Prop := maxIntegerDigits < digitCount event.id

theorem idText_of_short (h : ¬ event.HasLongId) :
    event.idText true = .ok (some (toString event.id)) :=
  map_eq_ok.mpr ⟨_, BuildError.integerText_eq_ok.mpr ⟨Nat.le_of_not_lt h, rfl⟩, rfl⟩

theorem idText_of_long (h : event.HasLongId) : event.idText true = .error .tooManyDigits :=
  map_eq_error.mpr (BuildError.integerText_eq_error.mpr ⟨h, rfl⟩)

theorem toFunctionUnder_metadata (h : ¬ event.HasLongId) (options : Options)
    (conventions : Conventions) :
    Parallel (fun f g => g = f.withMetadata conventions)
      (event.toFunctionUnder (options.withMetadata false) conventions)
      (event.toFunctionUnder (options.withMetadata true) conventions) := by
  refine .bind_left fun eventType => .bind_left fun _ => .bind_left fun literals => ?_
  have hids : Parallel (fun id id' => id = none ∧ id' = some (toString event.id))
      (event.idText false) (event.idText true) := idText_of_short h ▸ .ok ⟨rfl, rfl⟩
  refine hids.bind ?_
  rintro _ _ ⟨rfl, rfl⟩
  refine .bind_left fun marker => .ok ?_
  simp only [EventFunction.withMetadata, businessRecord_withMetadata, publishRecord_withMetadata,
    Option.map_map, Function.comp_def]

/-- **An event is refused alike**, or its function differs in the metadata of its records. -/
theorem toFunction_metadata (h : ¬ event.HasLongId) (options : Options) :
    Parallel (EventFunction.AddsMetadata options) (event.toFunction (options.withMetadata false))
      (event.toFunction (options.withMetadata true)) := by
  refine .bind_left fun _ => ?_
  have hsame (included : Bool) :
      (options.withMetadata included).conventions = options.conventions := rfl
  rw [hsame, hsame]
  cases hconventions : options.conventions with
  | ok conventions =>
    exact (toFunctionUnder_metadata h options conventions).mono
      fun h => ⟨conventions, hconventions, h⟩
  | error v =>
    dsimp only
    split
    · exact .bind_left fun _ => .error _
    · exact .error _

/-- With metadata there is no function when the id cannot be written. -/
theorem toFunction_breaks (h : event.HasLongId) (options : Options) :
    Breaks .tooManyDigits (event.toFunction (options.withMetadata false))
      (event.toFunction (options.withMetadata true)) := by
  refine .bind_left fun _ => ?_
  have hsame (included : Bool) :
      (options.withMetadata included).conventions = options.conventions := rfl
  rw [hsame, hsame]
  cases options.conventions with
  | ok conventions =>
    refine .bind_left fun eventType => .bind_left fun _ => .bind_left fun literals => .bind ?_
    exact .inl (idText_of_long h)
  | error v =>
    dsimp only
    split
    · exact .bind_left fun _ => .inr ⟨_, rfl, rfl⟩
    · exact .inr ⟨_, rfl, rfl⟩

/-- Both records of an event, without the metadata and with them. -/
example :
    let type : Value :=
      { parameter := { name := "event_type", type := .named "kind" }, stringEnum := some "tap" }
    let tap : Event := { id := 7, name := "tap", values := [type] }
    let keys (included : Bool) :=
      (tap.toFunction (Options.withMetadata {} included)).map fun f => f.records.map (·.keys)
    keys false = .ok [[.str "event_type"], []] ∧
      keys true = .ok [[.str "event_type", .str "schema_event_id", .str "schema_version"],
        [.str "achievement_id", .str "score"]] := by
  decide +kernel

end Event

/-! ### The file -/

/-- The metadata are no identifiers, so that they clash with none. -/
theorem SourceFile.AddsMetadata.conflicts_eq (h : plain.AddsMetadata schema options full) :
    full.conflicts = plain.conflicts := by
  have hfunctions : full.functions.map (·.identifier) = plain.functions.map (·.identifier) := by
    have hsame : List.Forall₂ (fun f g => f.identifier = g.identifier) plain.functions
        full.functions := h.functions.imp fun f g ⟨_, _, hg⟩ => hg ▸ rfl
    exact Pairing.eq_map (List.forall₂_map_right_iff.mpr hsame) id
  rw [conflicts, conflicts, hfunctions, h.objectName, h.enums]

namespace Schema

/-- Every function knows the id of its event. -/
theorem eventIds_of_toSource {source : SourceFile} (h : schema.toSource options = .ok source) :
    source.functions.map (·.eventId) = schema.events.map (·.id) := by
  obtain ⟨functions, enums, hfunctions, -, -, rfl, -⟩ := toSource_eq_ok.mp h
  have hids : List.Forall₂ (fun event f => event.id = f.eventId) schema.events functions := by
    refine hfunctions.imp fun event f hf => ?_
    obtain ⟨_, _, _, _, _, -, -, -, -, -, -, -, rfl⟩ := Event.toFunction_eq_ok.mp hf
    rfl
  exact Pairing.eq_map (List.forall₂_map_right_iff.mpr hids) id

/-- Some event has an id with too many digits. -/
def HasLongId (schema : Schema) : Prop := ∃ event ∈ schema.events, event.HasLongId

/-- A run that is not strict is refused alike, or its file differs in the metadata. -/
theorem toLenientSource_metadata (h : ¬ schema.HasLongId) (options : Options) :
    Parallel (SourceFile.AddsMetadata schema options)
      (schema.toLenientSource (options.withMetadata false))
      (schema.toLenientSource (options.withMetadata true)) := by
  have hevents : ∀ event ∈ schema.events, ¬ event.HasLongId := fun event hevent hlong =>
    h ⟨event, hevent, hlong⟩
  refine (Parallel.mapM fun event hevent =>
    Event.toFunction_metadata (hevents event hevent) options).bind fun _ _ hfunctions => ?_
  refine .bind_left fun _ => ?_
  cases hversion : BuildError.integerText schema.versionNumber with
  | error e => exact .error e
  | ok version =>
    obtain ⟨-, rfl⟩ := BuildError.integerText_eq_ok.mp hversion
    exact .ok ⟨rfl, rfl, rfl, rfl, rfl, hfunctions⟩

/-- Where every id can be written, the metadata switch only adds entries. -/
theorem toSource_parallel (h : ¬ schema.HasLongId) (options : Options) :
    Parallel (fun plain full => plain.functions.map (·.eventId) = schema.events.map (·.id) ∧
        plain.AddsMetadata schema options full ∧ full.conflicts = plain.conflicts)
      (schema.toSource (options.withMetadata false))
      (schema.toSource (options.withMetadata true)) := by
  refine Parallel.and_left ?_ fun _ => eventIds_of_toSource
  refine (toLenientSource_metadata h options).bind fun plain full h => ?_
  have hsame (included : Bool) :
      (options.withMetadata included).strictIdentifiers = options.strictIdentifiers := rfl
  rw [hsame, hsame, h.conflicts_eq]
  split
  · split
    · exact .error _
    · exact .ok ⟨h, h.conflicts_eq⟩
  · exact .ok ⟨h, h.conflicts_eq⟩

/-- With metadata there is no source when some id cannot be written. -/
theorem toSource_breaks (h : schema.HasLongId) (options : Options) :
    Breaks .tooManyDigits (schema.toSource (options.withMetadata false))
      (schema.toSource (options.withMetadata true)) :=
  .bind (.bind (.mapM (fun _ hlong => Event.toFunction_breaks hlong options)
    (fun _ hshort => Event.toFunction_metadata hshort options) h))

/-- **The metadata switch only adds entries**: both runs fail, for the same reason, or both build a
file, and these differ in the version of the schema and in two entries at the end of every record,
which have the id of the event and refer to the version; they have the same conflicts. Only an id
with too many digits keeps the run with metadata, and no other, from building a file. -/
theorem toSource_metadata (schema : Schema) (options : Options) :
    let plain := schema.toSource (options.withMetadata false)
    let full := schema.toSource (options.withMetadata true)
    ((∀ event ∈ schema.events, digitCount event.id ≤ maxIntegerDigits) →
      Parallel (fun plain full => plain.functions.map (·.eventId) = schema.events.map (·.id) ∧
        plain.AddsMetadata schema options full ∧ full.conflicts = plain.conflicts) plain full) ∧
    ((∃ event ∈ schema.events, maxIntegerDigits < digitCount event.id) →
      full = .error .tooManyDigits ∨ ∃ e, plain = .error e ∧ full = .error e) := by
  intro plain full
  refine ⟨fun hshort => toSource_parallel ?_ options, fun hlong => toSource_breaks hlong options⟩
  rintro ⟨event, hevent, hlong⟩
  exact Nat.not_lt_of_le (hshort event hevent) hlong

/-- A schema with one event, which is published. -/
def tapped (id : Int) : Schema where
  projectId := "shop"
  versionNumber := 2
  events := [{
    id
    name := "tap"
    values := [{
      parameter := { name := "event_type", type := .named "kind" }, stringEnum := some "tap" }] }]

/-- Both runs build a file when the id of the event can be written. -/
theorem toSource_metadata_tapped : ∃ plain full,
    (tapped 7).toSource (Options.withMetadata {} false) = .ok plain ∧
    (tapped 7).toSource (Options.withMetadata {} true) = .ok full ∧
    plain.AddsMetadata (tapped 7) {} full := by
  have hplain : ((tapped 7).toSource (Options.withMetadata {} false)).isOk := by decide +kernel
  obtain ⟨plain, hplain⟩ := exists_of_isOk hplain
  have hruns := (toSource_metadata (tapped 7) {}).1 (by decide +kernel)
  rw [hplain] at hruns
  cases hfull : (tapped 7).toSource (Options.withMetadata {} true) with
  | error e =>
    rw [hfull] at hruns
    exact nomatch hruns
  | ok full =>
    rw [hfull] at hruns
    cases hruns with
    | ok h => exact ⟨plain, full, hplain, rfl, h.2.1⟩

/-- The same event with an id that has too many digits: only the run with metadata fails. -/
theorem not_parallel_tapped : ∃ plain,
    (tapped longInteger).toSource (Options.withMetadata {} false) = .ok plain ∧
    (tapped longInteger).toSource (Options.withMetadata {} true) = .error .tooManyDigits := by
  have hplain : ((tapped longInteger).toSource (Options.withMetadata {} false)).isOk := by
    decide +kernel
  obtain ⟨plain, hplain⟩ := exists_of_isOk hplain
  have hlong : (tapped longInteger).HasLongId :=
    ⟨_, List.mem_singleton_self _, integerText?_eq_none.mp integerText?_longInteger⟩
  rcases toSource_breaks hlong {} with hfull | ⟨e, herror, -⟩
  · exact ⟨plain, hplain, hfull⟩
  · exact nomatch hplain.symm.trans herror

end Schema
end TrackingPlan
