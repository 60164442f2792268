import TrackingPlan.Proofs.Generator.Defaults

/-!
# Kotlin and Python agree on what is an error

Generators for Kotlin and for Python under one configuration build the same source. When the
configuration has a setting of the right kind under each name, a run fails for the source that
cannot be built, or for the first default without a provider, and this is the same for both. Where
both succeed they warn about the same things, and Python about the types that it has to rename.

Key definitions: `Settings.WellTyped`, `GenerationError.Explained`, `Outcome.Agree`,
`Generator.Twins`.
Key theorems: `Generator.Twins.generate_explained`, `Generator.Twins.agree`,
`Generator.run_agree`.
-/

namespace TrackingPlan

open Steps

variable {source : SourceFile}

/-! ### Runs under one configuration -/

/-- Conventions that are texts, apart from the list of texts that names the parameters with a
default. -/
structure Settings.TypedConventions (members : Assoc Json) : Prop where
  eventTypeParameter : ∃ s, Json.member members "event_type_parameter" = .str s
  defaultedParameters : ∃ names : List String,
    Json.member members "defaulted_parameters" = .arr (names.map .str)
  businessEventIdKey : ∃ s, Json.member members "business_event_id_key" = .str s
  businessSchemaVersionKey : ∃ s, Json.member members "business_schema_version_key" = .str s
  publishEventIdKey : ∃ s, Json.member members "publish_event_id_key" = .str s
  publishSchemaVersionKey : ∃ s, Json.member members "publish_schema_version_key" = .str s
  consumerTagMarker : ∃ s, Json.member members "consumer_tag_marker" = .str s
  enumValueField : ∃ s, Json.member members "enum_value_field" = .str s

/-- A configuration in which every setting is of the kind that it is meant to be, and which says
nothing about the language. -/
structure Settings.WellTyped (s : Settings) : Prop where
  outputFile : s.get "output_file" = .null ∨ ∃ name, s.get "output_file" = .str name
  outputClassName : ∃ name, s.get "output_class_name" = .str name
  packageName : ∃ name, s.get "package_name" = .str name
  includeSchemaMetadata : ∃ b, s.get "include_schema_metadata" = .bool b
  requirePublishEvent : ∃ b, s.get "require_publish_event" = .bool b
  strictIdentifiers : ∃ b, s.get "strict_identifiers" = .bool b
  addComments : ∃ b, s.get "add_comments" = .bool b
  conventions : ∃ members, s.get "conventions" = .obj members ∧ TypedConventions members
  language : s.language = .ok []

variable {settings : Settings}

theorem Settings.WellTyped.textual (h : settings.WellTyped) : settings.options.Textual where
  outputClassName := h.outputClassName
  packageName := h.packageName
  conventions := by
    obtain ⟨members, hmembers, htyped⟩ := h.conventions
    refine ⟨conventionsOf members, by rw [options, hmembers], ?_⟩
    exact {
      eventTypeParameter := htyped.eventTypeParameter
      businessEventIdKey := htyped.businessEventIdKey
      businessSchemaVersionKey := htyped.businessSchemaVersionKey
      publishEventIdKey := htyped.publishEventIdKey
      publishSchemaVersionKey := htyped.publishSchemaVersionKey
      consumerTagMarker := htyped.consumerTagMarker
      enumValueField := htyped.enumValueField }

/-- A failure that no setting is to blame for: an integer of the schema has too many digits, or the
failure has a text of its own. -/
def GenerationError.Explained (e : GenerationError) : Prop :=
  e = .build .tooManyDigits ∨ ∃ text, e.message? = some text

theorem BuildError.Explained.build {e : BuildError} (h : e.Explained) :
    (GenerationError.build e).Explained :=
  h.imp (congrArg GenerationError.build) id

/-- The outcome of a run in Kotlin and that of a run in Python agree: both fail with one message
for one reason, which no setting is to blame for; or both succeed, Python with warnings about
renamed types after those of Kotlin, and what they were about differs in the language only. -/
inductive Outcome.Agree : Outcome → Outcome → Prop
  | failure {message : String} {e : GenerationError} (explained : e.Explained) :
      Agree (.failure message (.generation e)) (.failure message (.generation e))
  | success {kotlin python : Output} {renames : List Warning}
      (warnings : python.warnings = kotlin.warnings ++ renames)
      (renamed : ∀ w ∈ renames, ∃ type className identifier,
        w = .renamed type className identifier)
      (language : kotlin.metadata.target = .kotlin)
      (metadata : python.metadata = { kotlin.metadata with target := .python }) :
      Agree (.success kotlin) (.success python)

/-- The warnings of Python are about renamed types. -/
theorem Python.renamed_of_mem_renamesFrom : ∀ (scope : Naming.Scope) (types : List SchemaType),
    ∀ w ∈ renamesFrom scope types, ∃ type className identifier,
      w = .renamed type className identifier
  | _, [], w, hw => absurd hw List.not_mem_nil
  | scope, t :: rest, w, hw => by
    rw [renamesFrom] at hw
    generalize scope.sanitize (Naming.typeName t.name) .preserve = named at hw
    rcases List.mem_append.mp hw with hw | hw
    · split at hw
      · exact absurd hw List.not_mem_nil
      · exact ⟨_, _, _, List.mem_singleton.mp hw⟩
    · exact renamed_of_mem_renamesFrom _ rest w hw

namespace Generator

variable {k p : Generator} {scopes : Python.Scopes} {kotlinNames pythonNames : List String}

/-- A generator for Kotlin and one for Python with the same configuration, which leaves their
styles and layouts as they are built in. -/
structure Twins (k p : Generator) (scopes : Python.Scopes) : Prop where
  settings : k.settings = p.settings
  kotlin : k.emitter = .kotlin {}
  python : p.emitter = .python {} scopes
  words : scopes.Worded
  kotlinLayouts : k.templates = .builtin Kotlin.layoutNames
  pythonLayouts : p.templates = .builtin Python.layoutNames

theorem Twins.sameOptions (h : Twins k p scopes) : k.options = p.options := by
  rw [Generator.options, Generator.options, h.settings]

theorem moduleNames_eq_ok {objectName : Json} (h : ∃ s, objectName = .str s) :
    ∃ taken, ({} : Python.Style).moduleNames objectName = .ok taken := by
  obtain ⟨s, rfl⟩ := h
  exact ⟨_, rfl⟩

section

variable {g : Generator} {schema : Schema} {ws : List Warning}

/-- A generator gives the warnings of all languages first, and then what its own language adds. -/
theorem warnings_eq_ok : g.warnings schema = .ok ws ↔
    ∃ general, schema.warnings g.options = .ok general ∧
      (∀ w ∈ general, ∃ text, w.text? = some text) ∧
      ∃ others, g.languageWarnings schema = .ok others ∧ general ++ others = ws := by
  have htexts (general : List Warning) : ¬ general.any (·.text?.isNone) ↔
      ∀ w ∈ general, ∃ text, w.text? = some text := by
    simp [← Option.isSome_iff_exists, Option.isSome_iff_ne_none]
  simp only [warnings, bind_eq_ok, mapError_eq_ok, refuse_eq_ok, pure_eq_ok, htexts]

/-- Without the warnings of all languages there are none. -/
theorem warnings_of_error {e : BuildError} (h : schema.warnings g.options = .error e) :
    g.warnings schema = .error (.build e) := by
  rw [warnings, h]
  rfl

theorem languageWarnings_of_kotlin {style : Kotlin.Style} (h : g.emitter = .kotlin style) :
    g.languageWarnings schema = .ok [] := by
  rw [languageWarnings, h]

theorem exists_languageWarnings (h : g.emitter = .python {} scopes)
    (hname : ∃ s, g.options.outputClassName = .str s) :
    ∃ others, g.languageWarnings schema = .ok others := by
  obtain ⟨taken, htaken⟩ := moduleNames_eq_ok hname
  rw [languageWarnings, h]
  exact ⟨_, map_eq_ok.mpr ⟨taken, htaken, rfl⟩⟩

/-- What a language adds to the warnings is about renamed types. -/
theorem renamed_of_mem_languageWarnings (h : g.languageWarnings schema = .ok ws) :
    ∀ w ∈ ws, ∃ type className identifier, w = .renamed type className identifier := by
  unfold languageWarnings at h
  split at h
  · obtain ⟨taken, -, rfl⟩ := map_eq_ok.mp h
    exact Python.renamed_of_mem_renamesFrom _ _
  · obtain rfl := Except.ok.inj h
    exact fun _ hw => absurd hw List.not_mem_nil

end

variable (h : Twins k p scopes) (hoptions : p.options.Textual)

include h hoptions

theorem Twins.failure?_kotlin (hsource : source.Textual) :
    failure? (k.render source).1 = source.unprovided? ({} : Kotlin.Style).providers := by
  simp only [render, h.kotlin, h.kotlinLayouts, h.sameOptions]
  exact Kotlin.File.failure?_print hoptions hsource

omit hoptions in
theorem Twins.failure?_python (hsource : source.Textual)
    (hclosed : ∀ f ∈ source.functions, ∀ r ∈ f.records, ∀ e ∈ r.entries, e.Closed f) :
    failure? (p.render source).1 = source.unprovided? ({} : Python.Style).providers := by
  obtain ⟨taken, htaken⟩ := moduleNames_eq_ok hsource.objectName
  rw [render_eq_print (module?_of_emitter h.python htaken), h.pythonLayouts]
  exact Python.Module.failure?_print (Python.Module.methods_write h.words hclosed) rfl hsource

/-- They fail to write code for a schema in the same way. -/
theorem Twins.failure?_generate (schema : Schema) :
    failure? (k.generate schema).1 = failure? (p.generate schema).1 := by
  unfold generate
  rw [h.sameOptions]
  cases hsource : schema.toSource p.options with
  | error e => rfl
  | ok source =>
    have htextual : source.Textual := Schema.textual_of_toSource hoptions hsource
    have hclosed := Schema.closed_of_toSource hsource
    calc failure? (k.render source).1
        = source.unprovided? ({} : Kotlin.Style).providers := h.failure?_kotlin hoptions htextual
      _ = source.unprovided? ({} : Python.Style).providers := source.unprovided?_eq
      _ = failure? (p.render source).1 := (h.failure?_python htextual hclosed).symm

/-- No setting is to blame for it. -/
theorem Twins.generate_explained (schema : Schema) :
    Throws GenerationError.Explained (k.generate schema).1 := by
  intro e he
  unfold generate at he
  rw [h.sameOptions] at he
  cases hsource : schema.toSource p.options with
  | error e' =>
    rw [hsource] at he
    obtain rfl := Except.error.inj he
    exact (Schema.toSource_explained hoptions schema e' hsource).build
  | ok source =>
    rw [hsource] at he
    have hmissing := h.failure?_kotlin hoptions (Schema.textual_of_toSource hoptions hsource)
    obtain ⟨name, rfl⟩ := SourceFile.noProvider_of_unprovided?
      (hmissing.symm.trans (failure?_eq_some.mpr he))
    exact .inr ⟨_, rfl⟩

/-- Neither of them has warnings to give, for a reason for which there is no source either; or they
have the same warnings, but for types that Python renames. -/
theorem Twins.warnings (schema : Schema) :
    (∃ e, schema.toSource p.options = .error e ∧ k.warnings schema = .error (.build e) ∧
      p.warnings schema = .error (.build e)) ∨
    ∃ general renames, k.warnings schema = .ok general ∧
      p.warnings schema = .ok (general ++ renames) ∧
      ∀ w ∈ renames, ∃ type className identifier, w = .renamed type className identifier := by
  cases hgeneral : schema.warnings p.options with
  | error e =>
    exact .inl ⟨e, Schema.toSource_of_warnings hgeneral,
      warnings_of_error (h.sameOptions ▸ hgeneral), warnings_of_error hgeneral⟩
  | ok general =>
    obtain ⟨renames, hrenames⟩ : ∃ renames, p.languageWarnings schema = .ok renames :=
      exists_languageWarnings h.python hoptions.outputClassName
    have hkotlin : k.languageWarnings schema = .ok [] := languageWarnings_of_kotlin h.kotlin
    have htexts := Schema.exists_text_of_warnings hoptions.outputClassName hgeneral
    refine .inr ⟨general, renames, ?_, ?_, renamed_of_mem_languageWarnings hrenames⟩
    · exact warnings_eq_ok.mpr
        ⟨general, h.sameOptions ▸ hgeneral, htexts, [], hkotlin, List.append_nil general⟩
    · exact warnings_eq_ok.mpr ⟨general, hgeneral, htexts, renames, hrenames, rfl⟩

/-- **They agree on the outcome of every run.** -/
theorem Twins.agree (schema : Schema) : Outcome.Agree (k.run schema).1 (p.run schema).1 := by
  have htarget : k.target = .kotlin ∧ p.target = .python := by
    rw [target, target, h.kotlin, h.python]
    exact ⟨rfl, rfl⟩
  rw [run_fst, run_fst]
  rcases h.warnings hoptions schema with
    ⟨e, hsource, hkotlin, hpython⟩ | ⟨general, renames, hkotlin, hpython, hrenames⟩
  · rw [hkotlin, hpython]
    exact .failure (Schema.toSource_explained hoptions schema e hsource).build
  rw [hkotlin, hpython]
  rcases cases_of_failure?_eq (h.failure?_generate hoptions schema) with
    ⟨e, hfails, hfails'⟩ | ⟨code, code', hcode, hcode'⟩
  · rw [hfails, hfails']
    exact .failure (h.generate_explained hoptions schema e hfails)
  · rw [hcode, hcode']
    refine .success rfl hrenames htarget.1 ?_
    show Metadata.of p.target p.settings schema = _
    rw [htarget.2, ← h.settings]
    rfl

omit h hoptions

variable {settings : Settings}

/-- Generators that are made under a configuration without settings of the language are twins,
however they were used, when no template was stored. -/
theorem twins_of_create (hlanguage : settings.language = .ok []) :
    ∃ kotlin python, create .kotlin settings = .ok kotlin ∧
      create .python settings = .ok python ∧
      ∀ {k p}, kotlin.Becomes k → k.templates = kotlin.templates → python.Becomes p →
        p.templates = python.templates → ∃ scopes, Twins k p scopes := by
  refine ⟨_, _, create_kotlin_eq_ok.mpr ⟨[], {}, hlanguage, rfl, rfl⟩,
    create_python_eq_ok.mpr ⟨[], {}, hlanguage, rfl, rfl⟩, ?_⟩
  intro k p hk hktemplates hp hptemplates
  have hkotlin : k.emitter = .kotlin {} := hk.follows.emitter.eq_kotlin
  obtain ⟨scopes, hpython, hwords⟩ := hp.follows.emitter.eq_python Python.Scopes.worded_empty
  exact ⟨scopes, hk.follows.settings.trans hp.follows.settings.symm, hkotlin, hpython, hwords,
    hktemplates, hptemplates⟩

/-- **Kotlin and Python agree on what is an error**: under one well-typed configuration that says
nothing about the language, the outcomes of their runs agree for every schema, whatever the two
generators were used for. -/
theorem run_agree (htyped : settings.WellTyped) :
    ∃ kotlin python, create .kotlin settings = .ok kotlin ∧
      create .python settings = .ok python ∧
      ∀ {k p}, kotlin.Becomes k → k.templates = kotlin.templates → python.Becomes p →
        p.templates = python.templates →
        ∀ schema, Outcome.Agree (k.run schema).1 (p.run schema).1 := by
  obtain ⟨kotlin, python, hkotlin, hpython, hall⟩ := twins_of_create htyped.language
  refine ⟨kotlin, python, hkotlin, hpython, fun {k p} hk hktemplates hp hptemplates schema => ?_⟩
  obtain ⟨scopes, htwins⟩ := hall hk hktemplates hp hptemplates
  have hoptions : p.options.Textual := by
    rw [Generator.options, hp.follows.settings, settings_of_create hpython]
    exact htyped.textual
  exact htwins.agree hoptions schema

/-- Users have a default without a provider: Kotlin and Python both refuse a schema with one. -/
theorem run_agree_unprovided :
    Settings.unprovided.WellTyped ∧
      ∃ kotlin python, create .kotlin Settings.unprovided = .ok kotlin ∧
        create .python Settings.unprovided = .ok python ∧
        (kotlin.run Schema.withUser).1.message? =
          some "Code generation failed: No default provider configured for 'user'" ∧
        ∀ schema, Outcome.Agree (kotlin.run schema).1 (python.run schema).1 := by
  have htyped : Settings.unprovided.WellTyped := {
    outputFile := .inl rfl
    outputClassName := ⟨_, rfl⟩
    packageName := ⟨_, rfl⟩
    includeSchemaMetadata := ⟨_, rfl⟩
    requirePublishEvent := ⟨_, rfl⟩
    strictIdentifiers := ⟨_, rfl⟩
    addComments := ⟨_, rfl⟩
    conventions := ⟨_, rfl, ⟨_, rfl⟩, ⟨["user"], rfl⟩, ⟨_, rfl⟩, ⟨_, rfl⟩, ⟨_, rfl⟩, ⟨_, rfl⟩,
      ⟨_, rfl⟩, ⟨_, rfl⟩⟩
    language := rfl }
  obtain ⟨kotlin, python, hkotlin, hpython, hall⟩ := run_agree htyped
  refine ⟨htyped, kotlin, python, hkotlin, hpython, ?_, hall .refl rfl .refl rfl⟩
  have hmessage : (create .kotlin Settings.unprovided).map
      (fun g => (g.run Schema.withUser).1.message?) =
        .ok (some "Code generation failed: No default provider configured for 'user'") := by
    decide +kernel
  rw [hkotlin] at hmessage
  exact Except.ok.inj hmessage

end Generator
end TrackingPlan
