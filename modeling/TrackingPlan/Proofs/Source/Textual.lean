import TrackingPlan.Proofs.Source.File
import TrackingPlan.Proofs.Source.Refusals

/-!
# Sources under textual options

Where the options give a text for every name, no setting is to blame for a failure to build a
source, every warning has a text, and the keys, fields and names of a source that is built are
texts.

Key definitions: `Conventions.Textual`, `Options.Textual`, `SourceFile.Textual`,
`BuildError.Explained`.
Key theorems: `Schema.toSource_explained`, `Schema.toSource_of_warnings`,
`Schema.warnings_eq_append`, `Schema.exists_text_of_warnings`, `Schema.textual_of_toSource`.
-/

namespace TrackingPlan

open Steps

/-- Every name that the conventions fix is a text. -/
structure Conventions.Textual (c : Conventions) : Prop where
  eventTypeParameter : ∃ s, c.eventTypeParameter = .str s
  businessEventIdKey : ∃ s, c.businessEventIdKey = .str s
  businessSchemaVersionKey : ∃ s, c.businessSchemaVersionKey = .str s
  publishEventIdKey : ∃ s, c.publishEventIdKey = .str s
  publishSchemaVersionKey : ∃ s, c.publishSchemaVersionKey = .str s
  consumerTagMarker : ∃ s, c.consumerTagMarker = .str s
  enumValueField : ∃ s, c.enumValueField = .str s

/-- There are conventions, and every name is a text. -/
structure Options.Textual (o : Options) : Prop where
  outputClassName : ∃ s, o.outputClassName = .str s
  packageName : ∃ s, o.packageName = .str s
  conventions : ∃ c, o.conventions = .ok c ∧ c.Textual

/-- A build error that no setting is to blame for: an integer has too many digits, or the error has
a text of its own. -/
def BuildError.Explained (e : BuildError) : Prop :=
  e = .tooManyDigits ∨ ∃ text, e.message? = some text

variable {schema : Schema} {options : Options} {source : SourceFile} {event : Event}
  {conventions : Conventions} {e : BuildError}

/-! ### No setting is to blame for a failure -/

namespace Event

theorem Refuses.explained (h : conventions.Textual)
    (hrefuses : event.Refuses options conventions e) : e.Explained := by
  cases hrefuses with
  | longValue | longId => exact .inl rfl
  | marker _ _ _ _ hnone =>
    obtain ⟨marker, hmarker⟩ := h.consumerTagMarker
    exact absurd hmarker (hnone marker)
  | _ => exact .inr ⟨_, rfl⟩

theorem toFunction_explained (h : options.Textual) (event : Event) :
    Throws BuildError.Explained (event.toFunction options) := by
  obtain ⟨conventions, hconventions, htextual⟩ := h.conventions
  exact fun e he => ((toFunction_eq_error hconventions).mp he).explained htextual

end Event

/-- The spaces of identifiers that can clash have texts when the object has one. -/
theorem SourceFile.exists_text_of_mem_conflicts (h : ∃ s, source.objectName = .str s)
    {space : Space} {i : String} (hmem : (space, i) ∈ source.conflicts) :
    ∃ text, duplicateText? space i = some text := by
  obtain ⟨name, hname⟩ := h
  simp only [conflicts, List.mem_append, List.mem_map, List.mem_flatMap, Prod.mk.injEq] at hmem
  rcases hmem with (⟨_, -, rfl, rfl⟩ | ⟨_, -, rfl, rfl⟩) | ⟨_, -, _, -, rfl, rfl⟩
  · rw [hname]
    exact ⟨_, rfl⟩
  · exact ⟨_, rfl⟩
  · exact ⟨_, rfl⟩

namespace Schema

theorem enumerations_eq_ok (h : options.conventions = .ok conventions) :
    schema.enumerations options = .ok (schema.types.filterMap (·.toEnumeration? conventions)) := by
  rw [enumerations, h]

theorem toLenientSource_explained (h : options.Textual) (schema : Schema) :
    Throws BuildError.Explained (schema.toLenientSource options) := by
  obtain ⟨conventions, hconventions, -⟩ := h.conventions
  unfold toLenientSource
  rw [enumerations_eq_ok hconventions]
  refine .bind (.mapM (Event.toFunction_explained h) _) fun functions => ?_
  refine .bind (.ok _) fun enums => .bind (fun e he => ?_) fun version => .ok _
  exact .inl (BuildError.integerText_eq_error.mp he).2

theorem objectName_of_toLenientSource (h : schema.toLenientSource options = .ok source) :
    source.objectName = options.outputClassName := by
  simp only [toLenientSource, bind_eq_ok, pure_eq_ok] at h
  obtain ⟨_, -, _, -, _, -, rfl⟩ := h
  rfl

/-- **Under textual options no setting is to blame when a source cannot be built.** -/
theorem toSource_explained (h : options.Textual) (schema : Schema) :
    Throws BuildError.Explained (schema.toSource options) := by
  refine .bind_of_ok (toLenientSource_explained h schema) fun source hsource => ?_
  have hname : ∃ s, source.objectName = .str s :=
    objectName_of_toLenientSource hsource ▸ h.outputClassName
  split
  · split
    · rename_i space i rest hconflicts
      refine .error (.inr (SourceFile.exists_text_of_mem_conflicts hname ?_))
      exact hconflicts ▸ List.mem_cons_self
    · exact .ok source
  · exact .ok source

/-- Where there are no warnings to give, there is no source, and for the same reason. -/
theorem toSource_of_warnings (h : schema.warnings options = .error e) :
    schema.toSource options = .error e := by
  simp only [warnings] at h
  split at h
  · exact nomatch h
  · split at h
    · exact nomatch h
    · rename_i setting hsource
      exact hsource.trans (congrArg Except.error (Except.error.inj h))
    · rename_i hsource
      exact hsource.trans (congrArg Except.error (Except.error.inj h))
    · exact nomatch h

theorem mem_unknownTypes {known : List String} {event : Event} {w : Warning} :
    w ∈ unknownTypes known event ↔ ∃ p ∈ event.parameters ++ event.values.map (·.parameter), ∃ t,
      p.type = .named t ∧ t ∉ known ∧ w = .unknownType event.name p.name t := by
  rw [unknownTypes, List.mem_filterMap]
  refine exists_congr fun p => and_congr_right fun _ => ?_
  cases p.type with
  | primitive _ => simp
  | named t => by_cases ht : t ∈ known <;> simp [ht, eq_comm]

/-- The warnings of all languages are about unknown types first, and then about the conflicts of the
source. -/
theorem warnings_eq_append {ws : List Warning} (h : schema.warnings options = .ok ws) :
    ∃ clashes,
      ws = schema.events.flatMap (unknownTypes (schema.enumTypes.map (·.name))) ++ clashes ∧
      ∀ w ∈ clashes, ∃ source space identifier, schema.toSource options = .ok source ∧
        (space, identifier) ∈ source.conflicts ∧ w = .duplicate space identifier := by
  have hnone : ∀ w ∈ ([] : List Warning), ∃ source space identifier,
      schema.toSource options = .ok source ∧ (space, identifier) ∈ source.conflicts ∧
        w = .duplicate space identifier := fun _ hw => absurd hw List.not_mem_nil
  simp only [warnings] at h
  split at h
  · exact ⟨[], by rw [List.append_nil, ← Except.ok.inj h], hnone⟩
  · split at h
    · rename_i source hsource
      refine ⟨_, (Except.ok.inj h).symm, List.forall_mem_map.mpr ?_⟩
      exact fun clash hclash => ⟨source, clash.1, clash.2, hsource, hclash, rfl⟩
    · exact nomatch h
    · exact nomatch h
    · exact ⟨[], by rw [List.append_nil, ← Except.ok.inj h], hnone⟩

/-- Warnings under options with a text for the name of the object have texts. -/
theorem exists_text_of_warnings (h : ∃ s, options.outputClassName = .str s) {ws : List Warning}
    (hws : schema.warnings options = .ok ws) : ∀ w ∈ ws, ∃ text, w.text? = some text := by
  obtain ⟨clashes, rfl, hclashes⟩ := warnings_eq_append hws
  intro w hw
  rcases List.mem_append.mp hw with hw | hw
  · obtain ⟨event, -, hw⟩ := List.mem_flatMap.mp hw
    obtain ⟨_, -, _, -, -, rfl⟩ := mem_unknownTypes.mp hw
    exact ⟨_, rfl⟩
  · obtain ⟨source, space, i, hsource, hmem, rfl⟩ := hclashes w hw
    obtain ⟨_, _, -, -, -, rfl, -⟩ := toSource_eq_ok.mp hsource
    exact SourceFile.exists_text_of_mem_conflicts h hmem

end Schema

/-! ### Sources have texts -/

/-- A source in which every key, every field and the name of the object are texts. -/
structure SourceFile.Textual (source : SourceFile) : Prop where
  objectName : ∃ s, source.objectName = .str s
  keys : ∀ f ∈ source.functions, ∀ r ∈ f.records, ∀ e ∈ r.entries, ∃ s, e.key = .str s
  valueFields : ∀ e ∈ source.enums, ∃ s, e.valueField = .str s

namespace Event

theorem metadata_textual {id : Option String} {idKey versionKey : Json}
    (hid : ∃ s, idKey = .str s) (hversion : ∃ s, versionKey = .str s) :
    ∀ e ∈ metadata id idKey versionKey, ∃ s, e.key = .str s := by
  intro e he
  cases id with
  | none => exact absurd he List.not_mem_nil
  | some text =>
    rcases List.mem_cons.mp he with rfl | he
    · exact hid
    · rw [List.mem_singleton.mp he]
      exact hversion

theorem toFunction_textual (h : options.Textual) {f : EventFunction}
    (hf : event.toFunction options = .ok f) :
    ∀ r ∈ f.records, ∀ e ∈ r.entries, ∃ s, e.key = .str s := by
  obtain ⟨_, hconventions, htextual⟩ := h.conventions
  obtain ⟨conventions, eventType, literals, _, _, hconventions', -, -, -, -, -, -, rfl⟩ :=
    toFunction_eq_ok.mp hf
  obtain rfl := Except.ok.inj (hconventions.symm.trans hconventions')
  intro r hr e he
  rcases List.mem_cons.mp hr with rfl | hr
  · simp only [businessRecord, List.mem_append, List.mem_map] at he
    rcases he with (⟨v, -, rfl⟩ | ⟨p, -, rfl⟩) | he
    · exact ⟨_, rfl⟩
    · exact ⟨_, rfl⟩
    · exact metadata_textual htextual.businessEventIdKey htextual.businessSchemaVersionKey e he
  · simp only [Option.mem_toList, Option.map_eq_some_iff] at hr
    obtain ⟨name, -, rfl⟩ := hr
    simp only [publishRecord, List.mem_append, List.mem_map] at he
    rcases he with (⟨v, -, rfl⟩ | ⟨p, -, rfl⟩) | he
    · exact ⟨_, rfl⟩
    · exact ⟨_, rfl⟩
    · exact metadata_textual htextual.publishEventIdKey htextual.publishSchemaVersionKey e he

end Event

/-- **Under textual options the source of a schema is textual.** -/
theorem Schema.textual_of_toSource (h : options.Textual)
    (hsource : schema.toSource options = .ok source) : source.Textual where
  objectName := by
    obtain ⟨functions, enums, -, -, -, rfl, -⟩ := toSource_eq_ok.mp hsource
    exact h.outputClassName
  keys f hf := by
    obtain ⟨event, -, hevent⟩ := event_of_mem_functions hsource hf
    exact Event.toFunction_textual h hevent
  valueFields e he := by
    obtain ⟨conventions, hconventions, htextual⟩ := h.conventions
    obtain ⟨functions, enums, -, henums, -, rfl, -⟩ := toSource_eq_ok.mp hsource
    rw [enumerations_eq_ok hconventions] at henums
    obtain rfl := Except.ok.inj henums
    obtain ⟨t, -, ht⟩ := List.mem_filterMap.mp he
    obtain ⟨strings, -, rfl⟩ := Option.map_eq_some_iff.mp ht
    exact htextual.enumValueField

end TrackingPlan
