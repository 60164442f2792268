import TrackingPlan.Proofs.Generator.Agreement
import TrackingPlan.Proofs.Registry
import TrackingPlan.Proofs.Settings.Blame

/-!
# Three ways to the code of a schema

The code for a schema is asked for directly, by a run of a generator that was made for the purpose,
or by a run that starts from a document. A run looks for warnings first and the direct way does
not; but under a well-typed configuration there are warnings to give unless there is no source, and
giving them leaves the generator as it is. So all three ways end in the same code or for the same
reason.

Key definitions: `Outcome.result`, `Options.named`.
Key theorems: `Generator.generate_of_warnings`, `Generator.result_run`, `generateText_agrees`.
-/

namespace TrackingPlan

open Steps

/-- The code of an outcome, or the reason why there is none. -/
def Outcome.result : Outcome → Except Failure String
  | success output => .ok output.code
  | failure _ cause => .error cause

namespace Outcome

variable {o : Outcome}

theorem result_eq_ok {text : String} :
    o.result = .ok text ↔ ∃ output, o = .success output ∧ output.code = text := by
  cases o <;> simp [result]

theorem result_eq_error {cause : Failure} :
    o.result = .error cause ↔ ∃ message, o = .failure message cause := by
  cases o <;> simp [result]

end Outcome

/-! ### Warnings before the code -/

namespace Generator

variable {settings : Settings} {target : Target} {g : Generator} {schema : Schema}

theorem exists_languageWarnings_of_create (htyped : settings.WellTyped)
    (hcreate : create target settings = .ok g) (schema : Schema) :
    ∃ others, g.languageWarnings schema = .ok others := by
  have hsettings : g.options = settings.options :=
    congrArg Settings.options (settings_of_create hcreate)
  cases target with
  | plain => exact ⟨[], (Except.ok.inj hcreate).symm ▸ rfl⟩
  | kotlin =>
    obtain ⟨-, style, hemitter⟩ := (Follows.refl g).of_create_kotlin hcreate
    exact ⟨[], languageWarnings_of_kotlin hemitter⟩
  | python =>
    obtain ⟨-, language, style, scopes, hlanguage, hstyle, hemitter, -⟩ :=
      (Follows.refl g).of_create_python hcreate
    obtain rfl : [] = language := Except.ok.inj (htyped.language.symm.trans hlanguage)
    obtain rfl : {} = style := Except.ok.inj hstyle
    exact exists_languageWarnings hemitter (hsettings ▸ htyped.textual.outputClassName)

/-- **Under a well-typed configuration there are warnings to give, if only none, unless there is no
code**, and for the same reason. -/
theorem generate_of_warnings (htyped : settings.WellTyped)
    (hcreate : create target settings = .ok g) {e : GenerationError}
    (h : g.warnings schema = .error e) : (g.generate schema).1 = .error e := by
  have hname : ∃ s, g.options.outputClassName = .str s := by
    rw [options, settings_of_create hcreate]
    exact htyped.textual.outputClassName
  obtain ⟨others, hothers⟩ := exists_languageWarnings_of_create htyped hcreate schema
  cases hgeneral : schema.warnings g.options with
  | error cause =>
    obtain rfl := Except.error.inj ((warnings_of_error hgeneral).symm.trans h)
    rw [generate, Schema.toSource_of_warnings hgeneral]
  | ok general =>
    have hwarnings := warnings_eq_ok.mpr
      ⟨general, hgeneral, Schema.exists_text_of_warnings hname hgeneral, others, hothers, rfl⟩
    cases hwarnings.symm.trans h

/-- **A run ends in the code that the generator writes, tidied, or fails where it does.** -/
theorem result_run (h : ∀ e, g.warnings schema = .error e → (g.generate schema).1 = .error e) :
    (g.run schema).1.result = ((g.generate schema).1.mapError .generation).map Layout.tidy := by
  rw [run_fst]
  cases hwarnings : g.warnings schema with
  | error e =>
    rw [h e hwarnings]
    rfl
  | ok warnings => cases (g.generate schema).1 <;> rfl

end Generator

/-! ### A configuration by a class name and a switch -/

/-- The options of a target under a class name and the metadata switch. -/
def Options.named (target : Target) (className : String) (metadata : Bool) : Options where
  outputFile := match target with
    | .plain => .null
    | _ => .str target.filename
  outputClassName := .str className
  packageName := match target with
    | .python => .str ""
    | _ => .str "com.trafi.analytics"
  includeSchemaMetadata := metadata

variable {className : String} {metadata : Bool}

theorem Settings.forLanguage_textOverrides [Depths] (files : FileTree) (target : Target)
    (className : String) (metadata : Bool) :
    forLanguage files target.name (textOverrides (.str className) (.bool metadata)) =
      .ok (Options.named target className metadata).toSettings := by
  cases target <;> rfl

/-- Such a configuration has everything of the kind that it is meant to be. -/
theorem Options.wellTyped_named (target : Target) (className : String) (metadata : Bool) :
    (named target className metadata).toSettings.WellTyped where
  outputFile := by
    cases target with
    | plain => exact .inl rfl
    | kotlin => exact .inr ⟨_, rfl⟩
    | python => exact .inr ⟨_, rfl⟩
  outputClassName := ⟨_, rfl⟩
  packageName := by cases target <;> exact ⟨_, rfl⟩
  includeSchemaMetadata := ⟨_, rfl⟩
  requirePublishEvent := ⟨_, rfl⟩
  strictIdentifiers := ⟨_, rfl⟩
  addComments := ⟨_, rfl⟩
  conventions := ⟨_, rfl, ⟨_, rfl⟩, ⟨_, rfl⟩, ⟨_, rfl⟩, ⟨_, rfl⟩, ⟨_, rfl⟩, ⟨_, rfl⟩, ⟨_, rfl⟩,
    ⟨_, rfl⟩⟩
  language := rfl

/-- The overrides by which a generator is told a class name and the metadata switch. -/
def ConfigSource.named (className : String) (metadata : Bool) : ConfigSource :=
  .overrides (textOverrides (.str className) (.bool metadata))

section EntryPoints

variable [Depths] {language : String} {files : FileTree} {g : Generator} {schema : Schema}

/-- A generator that was made under such overrides gives warnings about every schema that it writes
code for. -/
theorem Generator.generate_of_warnings_named
    (hcreate : Registry.builtin.create files language (.named className metadata) = .ok g)
    {e : GenerationError} (h : g.warnings schema = .error e) :
    (g.generate schema).1 = .error e := by
  obtain ⟨target, settings, -, hsettings, hgenerator⟩ := Registry.builtin_create_eq_ok hcreate
  have hnamed : settings = (Options.named target className metadata).toSettings :=
    Except.ok.inj (hsettings.symm.trans
      (Settings.forLanguage_textOverrides files target className metadata))
  have htyped : settings.WellTyped := hnamed ▸ Options.wellTyped_named target className metadata
  exact generate_of_warnings htyped hgenerator h

/-! ### The entry points -/

/-- **The direct way to code and that through a run end alike.** -/
theorem generateText_eq (schema : Schema) (className : String) (metadata : Bool)
    (language : String) (files : FileTree) :
    generateText schema (.str className) (.bool metadata) language =
      (do
        let g ← (Registry.builtin.create files language (.named className metadata)).mapError
          .registry
        (g.run schema).1.result) := by
  have hfiles : Registry.builtin.create {} language (.named className metadata) =
      Registry.builtin.create files language (.named className metadata) := rfl
  rw [generateText, ← hfiles, ConfigSource.named]
  cases hcreate : Registry.builtin.create {} language
      (.overrides (textOverrides (.str className) (.bool metadata))) with
  | error e => rfl
  | ok g =>
    show ((g.generate schema).1.mapError .generation >>= fun code => pure (Layout.tidy code)) =
      (g.run schema).1.result
    rw [Generator.result_run fun _ => Generator.generate_of_warnings_named hcreate]
    cases (g.generate schema).1 <;> rfl

/-- **A run that starts from the document of a schema ends like the run for the schema**, when its
configuration is in no file. -/
theorem result_generateFromDocument {document : Document} (hload : document.load = .ok schema)
    (files : FileTree) (language : String) {config : ConfigSource}
    (hconfig : ∀ file, config ≠ .file file) :
    ∃ outcome, generateFromDocument files document language config = .ok outcome ∧
      outcome.result = (do
        let g ← (Registry.builtin.create files language config).mapError .registry
        (g.run schema).1.result) := by
  unfold generateFromDocument
  rw [hload]
  cases hcreate : Registry.builtin.create files language config with
  | error e =>
    have hother : e.isLoneHalf ≠ true := fun he => by
      obtain ⟨file, _, hfile, -⟩ := Registry.exists_file_of_isLoneHalf hcreate he
      exact hconfig file hfile
    simp only [if_neg hother]
    exact ⟨_, rfl, rfl⟩
  | ok g => exact ⟨_, rfl, rfl⟩

/-- **The three ways to the code of a schema agree**, whatever the class name, the metadata switch
and the name of the language: the direct way gives a text exactly when a generator can be made and
its run succeeds with this code, and fails exactly when no generator can be made or its run fails,
and for the same reason; a run that starts from a document of the schema ends in the same code or
for the same reason too. -/
theorem generateText_agrees (schema : Schema) (className : String) (metadata : Bool)
    (language : String) (files : FileTree) :
    let config := ConfigSource.named className metadata
    let result := generateText schema (.str className) (.bool metadata) language
    (∀ text, result = .ok text ↔ ∃ g output, Registry.builtin.create files language config = .ok g ∧
      (g.run schema).1 = .success output ∧ output.code = text) ∧
    (∀ cause, result = .error cause ↔
      (∃ e, Registry.builtin.create files language config = .error e ∧ cause = .registry e) ∨
      ∃ g message, Registry.builtin.create files language config = .ok g ∧
        (g.run schema).1 = .failure message cause) ∧
    ∀ document : Document, document.load = .ok schema →
      ∃ outcome, generateFromDocument files document language config = .ok outcome ∧
        (∀ text, result = .ok text ↔ ∃ output, outcome = .success output ∧ output.code = text) ∧
        ∀ cause, result = .error cause ↔ ∃ message, outcome = .failure message cause := by
  intro config result
  have hresult : result = (do
      let g ← (Registry.builtin.create files language config).mapError .registry
      (g.run schema).1.result) := generateText_eq schema className metadata language files
  refine ⟨fun text => ?_, fun cause => ?_, fun document hload => ?_⟩
  · rw [hresult]
    simp only [bind_eq_ok, mapError_eq_ok, Outcome.result_eq_ok, exists_and_left]
  · rw [hresult]
    cases Registry.builtin.create files language config with
    | error e =>
      show Except.error (Failure.registry e) = .error cause ↔ _
      simp [eq_comm]
    | ok g =>
      show (g.run schema).1.result = .error cause ↔ _
      simp [Outcome.result_eq_error]
  · have hconfig : ∀ file, config ≠ .file file := by
      simp [config, ConfigSource.named]
    obtain ⟨outcome, houtcome, hsame⟩ := result_generateFromDocument hload files language hconfig
    rw [hresult, ← hsame]
    exact ⟨outcome, houtcome, fun _ => Outcome.result_eq_ok, fun _ => Outcome.result_eq_error⟩

end EntryPoints

/-- A document with one event. -/
def Document.oneEvent : Document :=
  .value (.obj [("projectId", .str "shop"), ("versionNumber", .int 3),
    ("events", .arr [.obj [("id", .int 1), ("name", .str "page opened")]])])

/-- The schema of the document. -/
def Schema.oneEvent : Schema where
  projectId := "shop"
  versionNumber := 3
  events := [{ id := 1, name := "page opened" }]

/-- All three ways give one text in Kotlin by its alias. -/
theorem generateText_agrees_oneEvent :
    ∃ _ : Depths, Document.oneEvent.load = .ok Schema.oneEvent ∧
      ∃ text g output output',
        generateText Schema.oneEvent (.str "Events") (.bool false) "KT" = .ok text ∧
        Registry.builtin.create {} "KT" (.named "Events" false) = .ok g ∧
        (g.run Schema.oneEvent).1 = .success output ∧ output.code = text ∧
        generateFromDocument {} Document.oneEvent "KT" (.named "Events" false) =
          .ok (.success output') ∧ output'.code = text := by
  let depths : Depths := .uniform 1
  have hload : Document.oneEvent.load = .ok Schema.oneEvent := by rfl
  obtain ⟨text, htext⟩ : ∃ text,
      generateText Schema.oneEvent (.str "Events") (.bool false) "KT" = .ok text :=
    exists_of_isOk (by decide +kernel)
  obtain ⟨hok, -, hdocument⟩ := generateText_agrees Schema.oneEvent "Events" false "KT" {}
  obtain ⟨g, output, hcreate, hrun, hcode⟩ := (hok text).mp htext
  obtain ⟨outcome, houtcome, hsuccess, -⟩ := hdocument Document.oneEvent hload
  obtain ⟨output', rfl, hsame⟩ := (hsuccess text).mp htext
  exact ⟨depths, hload, text, g, output, output', htext, hcreate, hrun, hcode, houtcome, hsame⟩

end TrackingPlan
