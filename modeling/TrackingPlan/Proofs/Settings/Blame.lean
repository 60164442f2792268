import TrackingPlan.Proofs.Failure
import TrackingPlan.Registry

/-!
# What is to blame for a configuration

A configuration is put together from several sources, and a generator is made under it. Only reading
the configuration file can fail for what the file is; every other step fails for a setting, whose
value is of a kind that has no meaning there or which is not known at all.

Key definition: `ConfigError.BlamesSetting`.
Key theorems: `Settings.forLanguage_blames`, `Generator.create_blames`, `Registry.create_blames`,
`Registry.exists_file_of_isLoneHalf`.
-/

namespace TrackingPlan

open Steps

/-- The error blames a setting. -/
def ConfigError.BlamesSetting (e : ConfigError) : Prop :=
  (∃ setting, e = .unusable setting) ∨ ∃ names, e = .unknownConventions names

theorem ConfigError.blamesSetting_unusable (setting : String) : (unusable setting).BlamesSetting :=
  .inl ⟨setting, rfl⟩

theorem ConfigError.not_blamesSetting_loneHalf (path : String) :
    ¬ (loneHalf path).BlamesSetting := by
  rintro (⟨_, h⟩ | ⟨_, h⟩)
  · exact nomatch h
  · exact nomatch h

open ConfigError

namespace Settings

theorem mergeOne_blames (base : Assoc Json) (key : String) (value : Json) :
    Throws BlamesSetting (mergeOne base key value) := by
  unfold mergeOne
  split
  · split
    · split
      · exact .ok _
      · exact .ok _
      · exact .error (blamesSetting_unusable key)
    · exact .ok _
  · exact .ok _

theorem merge_blames : ∀ (top base : Assoc Json), Throws BlamesSetting (merge base top)
  | [], base => .ok base
  | (key, value) :: rest, base => by
    rw [merge]
    exact (mergeOne_blames base key value).bind fun next => merge_blames rest next

theorem conventions_blames (members : Assoc Json) :
    Throws BlamesSetting (conventions members) := by
  unfold conventions
  dsimp only
  split
  · split
    · exact .ok _
    · split
      · exact .ok _
      · exact .error (blamesSetting_unusable _)
  · exact .error (.inr ⟨_, rfl⟩)

theorem languageEntry_blames (known unknown : Assoc Json) :
    Throws BlamesSetting (languageEntry known unknown) := by
  unfold languageEntry
  split
  · exact .ok _
  · split
    · exact .error (blamesSetting_unusable _)
    · exact .ok _

theorem assemble_blames (members : Assoc Json) : Throws BlamesSetting (assemble members) := by
  unfold assemble
  refine (languageEntry_blames _ _).bind fun s => ?_
  split
  · exact (conventions_blames _).bind fun _ => .ok _
  · exact .ok _

/-- **A configuration that cannot be put together** has a setting to blame, or its file. -/
theorem forLanguage_blames [Depths] (files : FileTree) (language : String)
    (overrides : Assoc Json) (file : String) :
    Throws (fun e => e.BlamesSetting ∨ file ≠ "" ∧ readFile files file = .error e)
      (forLanguage files language overrides file) := by
  have hassemble (base : Assoc Json) : Throws BlamesSetting (merge base overrides >>= assemble) :=
    (merge_blames overrides base).bind assemble_blames
  intro e he
  rw [forLanguage] at he
  split at he
  · exact .inl (hassemble _ e he)
  · rename_i hfile
    rcases bind_eq_error.mp he with hread | ⟨members, -, he⟩
    · exact .inr ⟨hfile, hread⟩
    · exact .inl (((merge_blames members _).bind hassemble) e he)

theorem language_blames (s : Settings) : Throws BlamesSetting s.language := by
  unfold language
  split
  · exact .ok _
  · exact .error (blamesSetting_unusable _)

end Settings

theorem Providers.ofLanguage_blames (defaults : Providers) (language : Assoc Json) :
    Throws BlamesSetting (defaults.ofLanguage language) := by
  unfold ofLanguage
  split
  · exact .ok _
  · exact .ok _
  · exact .ok _
  · split
    · exact .ok _
    · exact .error (blamesSetting_unusable _)
  · exact .error (blamesSetting_unusable _)

namespace Generator

/-- What a style is made of, whatever the language is. -/
theorem style_blames {Style : Type} {language : Assoc Json} {defaults : Providers}
    {styleOf : Providers → Style} : Throws BlamesSetting (do
      if Assoc.has language "self" then throw (ConfigError.unusable "self")
      return styleOf (← defaults.ofLanguage language)) := by
  split
  · exact .error (blamesSetting_unusable _)
  · exact (defaults.ofLanguage_blames language).bind fun _ => .ok _

/-- **A generator that cannot be made** has a setting to blame. -/
theorem create_blames (target : Target) (settings : Settings) :
    Throws BlamesSetting (create target settings) := by
  cases target with
  | plain => exact .ok _
  | kotlin =>
    exact settings.language_blames.bind fun _ => style_blames.bind fun _ => .ok _
  | python =>
    exact settings.language_blames.bind fun _ => style_blames.bind fun _ => .ok _

end Generator

namespace Registry

theorem instantiate_blames (c : Option GeneratorClass) (settings : Settings) {e : ConfigError}
    (h : instantiate c settings = .error (.config e)) : e.BlamesSetting := by
  unfold instantiate at h
  split at h
  · obtain ⟨cause, hcreate, hcause⟩ := mapError_eq_error.mp h
    obtain rfl := CreationFault.config.inj hcause
    exact Generator.create_blames _ settings cause hcreate
  · exact nomatch h

theorem resolve_ne_notCreated (r : Registry) (name language : String) (fault : CreationFault) :
    r.resolve name ≠ .error (.notCreated language fault) := by
  unfold resolve
  split
  · exact nofun
  · split <;> exact nofun

variable [Depths] {r : Registry} {files : FileTree} {name : String} {source : ConfigSource}

theorem settingsFrom_blames (language : String) :
    Throws (fun e => e.BlamesSetting ∨ ∃ file, source = .file file ∧
      Settings.readFile files file = .error e) (settingsFrom files language source) := by
  intro e he
  cases source with
  | complete settings => exact nomatch he
  | unsupported kind =>
    obtain rfl := Except.error.inj he
    exact .inl (blamesSetting_unusable _)
  | standard =>
    exact (Settings.forLanguage_blames files language [] "" e he).imp_right fun h => absurd rfl h.1
  | overrides members =>
    exact (Settings.forLanguage_blames files language members "" e he).imp_right
      fun h => absurd rfl h.1
  | file file =>
    exact (Settings.forLanguage_blames files language [] file e he).imp_right
      fun h => ⟨file, rfl, h.2⟩

/-- **A generator that is not made for its configuration** has a setting to blame, or the file. -/
theorem create_blames {language : String} {e : ConfigError}
    (h : r.create files name source = .error (.notCreated language (.config e))) :
    e.BlamesSetting ∨ ∃ file, source = .file file ∧ Settings.readFile files file = .error e := by
  unfold create at h
  rcases bind_eq_error.mp h with hresolve | ⟨key, -, h⟩
  · exact absurd hresolve (resolve_ne_notCreated r name language _)
  have hsteps {source : ConfigSource} (h : (do
      let settings ← (settingsFrom files key source).mapError fun e =>
        RegistryError.notCreated name (.config e)
      (instantiate (r.languages.get? key) settings).mapError (.notCreated name)) =
        .error (.notCreated language (.config e))) :
      e.BlamesSetting ∨ ∃ file, source = .file file ∧ Settings.readFile files file = .error e := by
    rcases bind_eq_error.mp h with hsettings | ⟨settings, -, hinstantiate⟩
    · obtain ⟨cause, hcause, heq⟩ := mapError_eq_error.mp hsettings
      obtain rfl := CreationFault.config.inj (RegistryError.notCreated.inj heq).2
      exact settingsFrom_blames key cause hcause
    · obtain ⟨fault, hfault, heq⟩ := mapError_eq_error.mp hinstantiate
      obtain rfl := (RegistryError.notCreated.inj heq).2
      exact .inl (instantiate_blames _ settings hfault)
  cases source with
  | unsupported kind => exact nomatch h
  | standard | overrides | complete | file => exact hsteps h

/-- **Only a configuration file keeps a generator from being made for a string in it.** -/
theorem exists_file_of_isLoneHalf {e : RegistryError} (h : r.create files name source = .error e)
    (he : e.isLoneHalf) : ∃ file path, source = .file file ∧
      Settings.readFile files file = .error (.loneHalf path) := by
  unfold RegistryError.isLoneHalf at he
  split at he
  · rename_i language path
    obtain ⟨file, hfile, hread⟩ := (create_blames h).resolve_left (not_blamesSetting_loneHalf path)
    exact ⟨file, path, hfile, hread⟩
  · exact absurd he Bool.false_ne_true

end Registry
end TrackingPlan
