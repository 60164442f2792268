import TrackingPlan.Generator.Outcome
import TrackingPlan.Proofs.Python.Outline
import TrackingPlan.Proofs.Source.File

/-!
# Generators in use

A generator can be used again and again. Whatever it is asked for, it keeps its configuration and
its style, and the scopes of a generator for Python keep the words of the language; so what it
writes the next time follows from how it was made.

Key definitions: `Use`, `Generator.after`, `Generator.Reaches`, `Generator.module?`.
Key theorems: `Generator.Reaches.follows`, `Generator.create_python_eq_ok`,
`Generator.generate_eq_ok`.
-/

namespace TrackingPlan

open Naming Steps

/-- What a generator can be asked for. -/
inductive Use where
  | store (name content : String)
  | render (source : SourceFile)
  | generate (schema : Schema)
  | run (schema : Schema)

/-- The second emitter has the style of the first one; the scopes of one for Python still have the
words of the language. -/
inductive Emitter.Follows : Emitter → Emitter → Prop
  | plain : Follows .plain .plain
  | kotlin (style : Kotlin.Style) : Follows (.kotlin style) (.kotlin style)
  | python (style : Python.Style) {s t : Python.Scopes} (words : s.Worded → t.Worded) :
      Follows (.python style s) (.python style t)

theorem Emitter.Follows.refl : ∀ e : Emitter, e.Follows e
  | .plain => .plain
  | .kotlin style => .kotlin style
  | .python style _ => .python style id

theorem Emitter.Follows.trans {a b c : Emitter} : a.Follows b → b.Follows c → a.Follows c
  | .plain, .plain => .plain
  | .kotlin style, .kotlin _ => .kotlin style
  | .python style h, .python _ h' => .python style (h' ∘ h)

theorem Emitter.Follows.target {a b : Emitter} : a.Follows b → b.target = a.target
  | .plain => rfl
  | .kotlin _ => rfl
  | .python _ _ => rfl

theorem Emitter.Follows.eq_kotlin {style : Kotlin.Style} {e : Emitter}
    (h : (Emitter.kotlin style).Follows e) : e = .kotlin style := by
  cases h with
  | kotlin _ => rfl

theorem Emitter.Follows.eq_python {style : Python.Style} {s : Python.Scopes} {e : Emitter}
    (h : (Emitter.python style s).Follows e) (hs : s.Worded) :
    ∃ t, e = .python style t ∧ t.Worded := by
  cases h with
  | python _ words => exact ⟨_, rfl, words hs⟩

namespace Generator

/-- The generator after it was asked for something. -/
def after (g : Generator) : Use → Generator
  | .store name content => g.addTemplate name content
  | .render source => (g.render source).2
  | .generate schema => (g.generate schema).2
  | .run schema => (g.run schema).2

/-- The first generator becomes the second one, when it is asked for one thing after another. -/
inductive Reaches (g : Generator) : Generator → Prop
  | refl : Reaches g g
  | step {h : Generator} (use : Use) : Reaches g h → Reaches g (h.after use)

/-- The second generator has the configuration and the style of the first one. -/
structure Follows (g h : Generator) : Prop where
  settings : h.settings = g.settings
  emitter : g.emitter.Follows h.emitter

theorem Follows.refl (g : Generator) : g.Follows g := ⟨rfl, .refl _⟩

theorem Follows.trans {g h k : Generator} (h1 : g.Follows h) (h2 : h.Follows k) : g.Follows k :=
  ⟨h2.settings.trans h1.settings, h1.emitter.trans h2.emitter⟩

/-! ### One use -/

theorem follows_addTemplate (g : Generator) (name content : String) :
    g.Follows (g.addTemplate name content) := ⟨rfl, .refl _⟩

theorem follows_render (g : Generator) (source : SourceFile) :
    g.Follows (g.render source).2 := by
  obtain ⟨settings, emitter, templates⟩ := g
  cases emitter with
  | plain => exact .refl _
  | kotlin style => exact .refl _
  | python style scopes =>
    simp only [render]
    cases style.moduleNames source.objectName with
    | error e => exact .refl _
    | ok taken =>
      exact ⟨rfl, .python style (Python.ofSource_keepsWords _ style taken source scopes)⟩

theorem follows_generate (g : Generator) (schema : Schema) :
    g.Follows (g.generate schema).2 := by
  unfold generate
  cases schema.toSource g.options with
  | error e => exact .refl g
  | ok source => exact g.follows_render source

theorem follows_run (g : Generator) (schema : Schema) : g.Follows (g.run schema).2 := by
  have hgenerate := g.follows_generate schema
  unfold run
  cases g.warnings schema with
  | error e => exact .refl g
  | ok warnings =>
    cases h : g.generate schema with
    | mk result h' =>
      rw [h] at hgenerate
      cases result <;> exact hgenerate

theorem follows_after (g : Generator) : ∀ use : Use, g.Follows (g.after use)
  | .store name content => g.follows_addTemplate name content
  | .render source => g.follows_render source
  | .generate schema => g.follows_generate schema
  | .run schema => g.follows_run schema

/-- **A generator keeps its configuration and its style** in all its uses. -/
theorem Reaches.follows {g h : Generator} (hreach : g.Reaches h) : g.Follows h := by
  induction hreach with
  | refl => exact .refl g
  | step use _ ih => exact ih.trans (follows_after _ use)

variable {settings : Settings} {g h : Generator} {source : SourceFile} {m : Python.Module}

/-! ### Generators for Kotlin -/

/-- How a generator for Kotlin is made. -/
theorem create_kotlin_eq_ok : create .kotlin settings = .ok g ↔
    ∃ language style, settings.language = .ok language ∧
      Kotlin.Style.ofLanguage language = .ok style ∧
      g = { settings, emitter := .kotlin style, templates := .builtin Kotlin.layoutNames } := by
  simp only [create, bind_eq_ok, pure_eq_ok]
  constructor
  · rintro ⟨language, hlanguage, style, hstyle, rfl⟩
    exact ⟨language, style, hlanguage, hstyle, rfl⟩
  · rintro ⟨language, style, hlanguage, hstyle, rfl⟩
    exact ⟨language, hlanguage, style, hstyle, rfl⟩

/-- What is known of a generator for Kotlin that keeps its configuration and its style. -/
theorem Follows.of_create_kotlin (hfollows : g.Follows h)
    (hcreate : create .kotlin settings = .ok g) :
    h.settings = settings ∧ ∃ style, h.emitter = .kotlin style := by
  obtain ⟨_, style, -, -, rfl⟩ := create_kotlin_eq_ok.mp hcreate
  exact ⟨hfollows.settings, style, hfollows.emitter.eq_kotlin⟩

/-- What a generator for Kotlin has become after all its uses. -/
theorem emitter_of_create_kotlin (hcreate : create .kotlin settings = .ok g)
    (hreach : g.Reaches h) : h.settings = settings ∧ ∃ style, h.emitter = .kotlin style :=
  hreach.follows.of_create_kotlin hcreate

/-! ### Generators for Python -/

/-- How a generator for Python is made. -/
theorem create_python_eq_ok : create .python settings = .ok g ↔
    ∃ language style, settings.language = .ok language ∧
      Python.Style.ofLanguage language = .ok style ∧
      g = { settings, emitter := .python style {}, templates := .builtin Python.layoutNames } := by
  simp only [create, bind_eq_ok, pure_eq_ok]
  constructor
  · rintro ⟨language, hlanguage, style, hstyle, rfl⟩
    exact ⟨language, style, hlanguage, hstyle, rfl⟩
  · rintro ⟨language, style, hlanguage, hstyle, rfl⟩
    exact ⟨language, hlanguage, style, hstyle, rfl⟩

/-- What is known of a generator for Python that keeps its configuration and its style. -/
theorem Follows.of_create_python (hfollows : g.Follows h)
    (hcreate : create .python settings = .ok g) : h.settings = settings ∧
      ∃ language style scopes, settings.language = .ok language ∧
        Python.Style.ofLanguage language = .ok style ∧ h.emitter = .python style scopes ∧
        scopes.Worded := by
  obtain ⟨language, style, hlanguage, hstyle, rfl⟩ := create_python_eq_ok.mp hcreate
  obtain ⟨scopes, hscopes, hwords⟩ := hfollows.emitter.eq_python Python.Scopes.worded_empty
  exact ⟨hfollows.settings, language, style, scopes, hlanguage, hstyle, hscopes, hwords⟩

/-- What a generator for Python has become after all its uses. -/
theorem emitter_of_create_python (hcreate : create .python settings = .ok g)
    (hreach : g.Reaches h) : h.settings = settings ∧
      ∃ language style scopes, settings.language = .ok language ∧
        Python.Style.ofLanguage language = .ok style ∧ h.emitter = .python style scopes ∧
        scopes.Worded :=
  hreach.follows.of_create_python hcreate

/-- The style of a generator for Python and the module that it writes for a source. -/
def module? (g : Generator) (source : SourceFile) : Option (Python.Style × Python.Module) :=
  match g.emitter with
  | .python style scopes => match style.moduleNames source.objectName with
    | .ok taken => some (style, (Python.Module.ofSource g.options style taken source scopes).1)
    | .error _ => none
  | _ => none

section

variable {style : Python.Style} {scopes : Python.Scopes}

theorem module?_of_emitter {taken : List String} (hemitter : g.emitter = .python style scopes)
    (htaken : style.moduleNames source.objectName = .ok taken) : g.module? source =
      some (style, (Python.Module.ofSource g.options style taken source scopes).1) := by
  simp only [module?, hemitter, htaken]

/-- Where the module of a source comes from. -/
theorem exists_of_module? (hm : g.module? source = some (style, m)) :
    ∃ scopes taken, g.emitter = .python style scopes ∧
      style.moduleNames source.objectName = .ok taken ∧
      m = (Python.Module.ofSource g.options style taken source scopes).1 := by
  unfold module? at hm
  split at hm
  · rename_i hemitter
    split at hm
    · rename_i htaken
      obtain ⟨rfl, rfl⟩ := Prod.mk.inj (Option.some.inj hm)
      exact ⟨_, _, hemitter, htaken, rfl⟩
    · exact nomatch hm
  · exact nomatch hm

/-- The text of a source is that of its module. -/
theorem render_eq_print (hm : g.module? source = some (style, m)) :
    (g.render source).1 = m.print style g.templates := by
  obtain ⟨scopes, taken, hemitter, htaken, rfl⟩ := exists_of_module? hm
  unfold render
  rw [hemitter]
  simp only [htaken]
  rfl

/-- Code is written only when the names that the module takes for itself are texts. -/
theorem exists_moduleNames {code : String} (hemitter : g.emitter = .python style scopes)
    (hrender : (g.render source).1 = .ok code) :
    ∃ taken, style.moduleNames source.objectName = .ok taken := by
  simp only [render, hemitter] at hrender
  cases htaken : style.moduleNames source.objectName with
  | error e =>
    rw [htaken] at hrender
    exact nomatch hrender
  | ok taken => exact ⟨taken, rfl⟩

end

/-- A generator writes code for a schema exactly when the schema has a source and its text can
be written. -/
theorem generate_eq_ok {schema : Schema} {code : String} :
    (g.generate schema).1 = .ok code ↔
      ∃ source, schema.toSource g.options = .ok source ∧ (g.render source).1 = .ok code := by
  unfold generate
  cases schema.toSource g.options with
  | error e => simp
  | ok source => simp

/-- The outcome of a run; what becomes of the generator does not matter for it. -/
theorem run_fst (g : Generator) (schema : Schema) : (g.run schema).1 =
    match g.warnings schema, (g.generate schema).1 with
    | .error e, _ => .ofError e
    | .ok _, .error e => .ofError e
    | .ok warnings, .ok code => .success {
        code := Layout.tidy code
        warnings
        metadata := .of g.target g.settings schema } := by
  have hfollows := g.follows_generate schema
  unfold run
  cases g.warnings schema with
  | error e => rfl
  | ok warnings =>
    cases hgenerate : g.generate schema with
    | mk result after =>
      rw [hgenerate] at hfollows
      have hsettings : after.settings = g.settings := hfollows.settings
      have htarget : after.target = g.target := hfollows.emitter.target
      cases result with
      | error e => rfl
      | ok code => simp only [hsettings, htarget]

/-- A run succeeds exactly when there are warnings to give and code to write. -/
theorem run_eq_success {schema : Schema} {output : Output} :
    (g.run schema).1 = .success output ↔ ∃ warnings code, g.warnings schema = .ok warnings ∧
      (g.generate schema).1 = .ok code ∧ output = {
        code := Layout.tidy code
        warnings
        metadata := .of g.target g.settings schema } := by
  rw [run_fst]
  cases g.warnings schema with
  | error e => simp [Outcome.ofError]
  | ok warnings =>
    cases (g.generate schema).1 with
    | error e => simp [Outcome.ofError]
    | ok code => simp [eq_comm]

/-- A new generator has the configuration that it is made under. -/
theorem settings_of_create {target : Target} (h : create target settings = .ok g) :
    g.settings = settings := by
  cases target with
  | plain => exact (Except.ok.inj h).symm ▸ rfl
  | kotlin =>
    obtain ⟨_, _, -, -, rfl⟩ := create_kotlin_eq_ok.mp h
    rfl
  | python =>
    obtain ⟨_, _, -, -, rfl⟩ := create_python_eq_ok.mp h
    rfl

/-- A new generator has the target that it is made for. -/
theorem target_of_create {target : Target} (h : create target settings = .ok g) :
    g.target = target := by
  cases target with
  | plain => exact (Except.ok.inj h).symm ▸ rfl
  | kotlin =>
    obtain ⟨_, _, -, -, rfl⟩ := create_kotlin_eq_ok.mp h
    rfl
  | python =>
    obtain ⟨_, _, -, -, rfl⟩ := create_python_eq_ok.mp h
    rfl

/-- A new generator writes code for a schema, when a look at the result shows some. -/
theorem exists_code {target : Target} {schema : Schema}
    (h : (create target settings).map (fun g => (g.generate schema).1.isOk) = .ok true) :
    ∃ g code, create target settings = .ok g ∧ (g.generate schema).1 = .ok code := by
  obtain ⟨g, hg, hisOk⟩ := map_eq_ok.mp h
  obtain ⟨code, hcode⟩ := exists_of_isOk hisOk
  exact ⟨g, code, hg, hcode⟩

/-- A run of a new generator succeeds, when a look at its outcome shows no message. -/
theorem exists_output {target : Target} {schema : Schema} {warnings : List Warning}
    (h : (create target settings).map (fun g =>
      ((g.run schema).1.message?, (g.run schema).1.warnings)) = .ok (none, warnings)) :
    ∃ g output, create target settings = .ok g ∧ (g.run schema).1 = .success output ∧
      output.warnings = warnings := by
  obtain ⟨g, hg, hfacts⟩ := map_eq_ok.mp h
  obtain ⟨hmessage, hwarnings⟩ := Prod.mk.inj hfacts
  cases hrun : (g.run schema).1 with
  | failure message cause =>
    rw [hrun] at hmessage
    exact nomatch hmessage
  | success output =>
    rw [hrun] at hwarnings
    exact ⟨g, output, hg, hrun, hwarnings⟩

end Generator
end TrackingPlan
