import TrackingPlan.Proofs.Generator.Use
import TrackingPlan.Proofs.Naming.History
import TrackingPlan.Proofs.Python.Runs

/-!
# Nothing is carried over

A generator for Python takes names from scopes that it keeps, and a use that fails half-way leaves
them with some of the names that it would have asked for. None of this is ever seen: whatever a
generator was used for, it writes for a schema what a new one writes, or fails in the same way.
Within one file nothing is carried over from one method to the next either.

Asking for warnings leaves a generator as it is, so it is no use of its own here.

Key definitions: `Python.Scopes.serveAll`, `Generator.Becomes`.
Key theorems: `Generator.Becomes.follows`, `Generator.render_congr`,
`Generator.Becomes.exists_module`, `Generator.generate_carriesNothing`.
-/

namespace TrackingPlan

open Naming Steps

namespace Python

/-- The scopes after each of them was asked for something, one request after another. -/
def Scopes.serveAll (s : Scopes) (classes methods locals : List Scope.Request) : Scopes where
  classes := s.classes.serveAll classes
  methods := s.methods.serveAll methods
  locals := s.locals.serveAll locals

/-- No request takes the words of the language from the scopes. -/
theorem Scopes.Worded.serveAll {s : Scopes} (h : s.Worded)
    (classes methods locals : List Scope.Request) :
    (s.serveAll classes methods locals).Worded :=
  ⟨h.classes.serveAll classes, h.methods.serveAll methods, h.locals.serveAll locals⟩

end Python

namespace Generator

/-- What a generator becomes when it is used again and again. A use that fails may stop anywhere:
by then the scopes were asked for anything at all. -/
inductive Becomes (g : Generator) : Generator → Prop
  | refl : Becomes g g
  | use {h : Generator} (use : Use) : Becomes g h → Becomes g (h.after use)
  | stop {h : Generator} {style : Python.Style} {scopes : Python.Scopes}
      (classes methods locals : List Scope.Request) (emitter : h.emitter = .python style scopes) :
      Becomes g h → Becomes g
        { h with emitter := .python style (scopes.serveAll classes methods locals) }

/-- **A generator keeps its configuration and its style**, also when its uses stop half-way. -/
theorem Becomes.follows {g h : Generator} (hbecomes : g.Becomes h) : g.Follows h := by
  induction hbecomes with
  | refl => exact .refl g
  | use use _ ih => exact ih.trans (follows_after _ use)
  | stop classes methods locals hemitter _ ih =>
    refine ih.trans ⟨rfl, ?_⟩
    rw [hemitter]
    exact .python _ fun hwords => hwords.serveAll classes methods locals

variable {g h : Generator} {style : Python.Style} {s t : Python.Scopes}

/-! ### Generators that differ in their scopes -/

/-- Two generators for Python that differ in their scopes only. -/
structure SameButScopes (g h : Generator) (style : Python.Style) (s t : Python.Scopes) :
    Prop where
  settings : h.settings = g.settings
  templates : h.templates = g.templates
  left : g.emitter = .python style s
  right : h.emitter = .python style t
  wordsLeft : s.Worded
  wordsRight : t.Worded

theorem SameButScopes.options (hsame : SameButScopes g h style s t) : h.options = g.options := by
  rw [Generator.options, Generator.options, hsame.settings]

/-- They write the same text for a source. -/
theorem render_congr (hsame : SameButScopes g h style s t) (source : SourceFile) :
    (h.render source).1 = (g.render source).1 := by
  cases htaken : style.moduleNames source.objectName with
  | error e => simp only [render, hsame.left, hsame.right, htaken]
  | ok taken =>
    have hmodule : (Python.Module.ofSource g.options style taken source t).1 =
        (Python.Module.ofSource g.options style taken source s).1 :=
      Python.Module.ofSource_eq hsame.wordsRight hsame.wordsLeft taken source
    rw [render_eq_print (module?_of_emitter hsame.right htaken),
      render_eq_print (module?_of_emitter hsame.left htaken), hsame.options, hmodule,
      hsame.templates]

/-- They write the same text for a schema, or fail in the same way. -/
theorem generate_congr (hsame : SameButScopes g h style s t) (schema : Schema) :
    (h.generate schema).1 = (g.generate schema).1 := by
  unfold generate
  rw [hsame.options]
  cases schema.toSource g.options with
  | error e => rfl
  | ok source => exact render_congr hsame source

theorem warnings_congr (hsame : SameButScopes g h style s t) (schema : Schema) :
    h.warnings schema = g.warnings schema := by
  unfold warnings languageWarnings
  rw [hsame.options, hsame.left, hsame.right]

theorem run_congr (hsame : SameButScopes g h style s t) (schema : Schema) :
    (h.run schema).1 = (g.run schema).1 := by
  have htarget : h.target = g.target := by
    rw [target, target, hsame.left, hsame.right]
    rfl
  rw [run_fst, run_fst, warnings_congr hsame, generate_congr hsame, hsame.settings, htarget]

/-! ### A generator that was used and a new one -/

variable {settings : Settings}

/-- **Code for a schema is the text of a module**, which a generator that was used writes from
scopes with the words of the language. -/
theorem Becomes.exists_module (hcreate : create .python settings = .ok g) (hbecomes : g.Becomes h)
    {schema : Schema} {code : String} (hcode : (h.generate schema).1 = .ok code) :
    ∃ source style taken scopes m, schema.toSource settings.options = .ok source ∧ scopes.Worded ∧
      m = (Python.Module.ofSource settings.options style taken source scopes).1 ∧
      h.module? source = some (style, m) ∧ m.print style h.templates = .ok code := by
  obtain ⟨source, hsource, hrender⟩ := generate_eq_ok.mp hcode
  obtain ⟨hsettings, language, style, scopes, -, -, hscopes, hwords⟩ :=
    hbecomes.follows.of_create_python hcreate
  have hoptions : h.options = settings.options := congrArg Settings.options hsettings
  obtain ⟨taken, htaken⟩ := exists_moduleNames hscopes hrender
  have hmodule := module?_of_emitter hscopes htaken
  rw [render_eq_print hmodule] at hrender
  rw [hoptions] at hsource hmodule hrender
  exact ⟨source, style, taken, scopes, _, hsource, hwords, rfl, hmodule, hrender⟩

/-- A generator that was used differs from a new one in its scopes only, when no template was
stored. -/
theorem Becomes.sameButScopes (hcreate : create .python settings = .ok g)
    (hbecomes : g.Becomes h) (htemplates : h.templates = g.templates) :
    ∃ style scopes, SameButScopes g h style {} scopes := by
  obtain ⟨language, style, -, -, rfl⟩ := create_python_eq_ok.mp hcreate
  obtain ⟨scopes, hscopes, hwords⟩ :=
    hbecomes.follows.emitter.eq_python Python.Scopes.worded_empty
  exact ⟨style, scopes, hbecomes.follows.settings, htemplates, rfl, hscopes,
    Python.Scopes.worded_empty, hwords⟩

/-- Every method in the module of the first generator has a counterpart in the module that the
second one writes for the function alone, with the same names of parameters. -/
theorem methods_alone (hsame : SameButScopes g h style s t) {source : SourceFile}
    {m : Python.Module} (hm : h.module? source = some (style, m)) :
    List.Forall₂ (fun f (method : Python.Method) => ∃ file alone,
        g.module? (source.only f) = some (style, file) ∧ file.methods = [alone] ∧
          method.SameLocals alone)
      source.functions m.methods := by
  cases htaken : style.moduleNames source.objectName with
  | error e => simp [module?, hsame.right, htaken] at hm
  | ok taken =>
    rw [module?_of_emitter hsame.right htaken, Option.some.injEq, Prod.mk.injEq] at hm
    obtain ⟨-, rfl⟩ := hm
    have hmethods := Python.Module.methods_sameLocals g.options style
      hsame.wordsRight hsame.wordsLeft taken source
    rw [hsame.options]
    refine Pairing.mono_of_mem hmethods fun {f method} _ halone => ?_
    obtain ⟨alone, hfile, hlocals⟩ := halone
    have htaken' : style.moduleNames (source.only f).objectName = .ok taken := htaken
    exact ⟨_, alone, module?_of_emitter hsame.left htaken', hfile, hlocals⟩

/-- **A generator for Python carries nothing over**: however it was used, and wherever its uses
have stopped, it writes for a schema what a new generator under its configuration writes, or fails
in the same way, and each method of a file shows its parameters under the names that a new
generator gives them in a file with that method alone. -/
theorem generate_carriesNothing (hcreate : create .python settings = .ok g)
    (hbecomes : g.Becomes h) (htemplates : h.templates = g.templates) :
    (∀ schema, (h.generate schema).1 = (g.generate schema).1 ∧
      (h.run schema).1 = (g.run schema).1) ∧
    ∀ {source style m}, h.module? source = some (style, m) →
      List.Forall₂ (fun f (method : Python.Method) => ∃ file alone,
          g.module? (source.only f) = some (style, file) ∧ file.methods = [alone] ∧
            method.SameLocals alone)
        source.functions m.methods := by
  obtain ⟨style, scopes, hsame⟩ := hbecomes.sameButScopes hcreate htemplates
  refine ⟨fun schema => ⟨generate_congr hsame schema, run_congr hsame schema⟩, ?_⟩
  intro source style' m hm
  obtain rfl : style' = style := by
    simp only [module?, hsame.right] at hm
    split at hm
    · exact (Prod.mk.inj (Option.some.inj hm)).1.symm
    · exact absurd hm (by simp)
  exact methods_alone hsame hm

/-- Writing a source stores no template. -/
theorem templates_render (g : Generator) (source : SourceFile) :
    (g.render source).2.templates = g.templates := by
  obtain ⟨settings, emitter, templates⟩ := g
  cases emitter with
  | plain => rfl
  | kotlin style => rfl
  | python style scopes =>
    simp only [render]
    cases style.moduleNames source.objectName <;> rfl

/-- Writing code for a schema stores no template. -/
theorem templates_generate (g : Generator) (schema : Schema) :
    (g.generate schema).2.templates = g.templates := by
  unfold generate
  cases schema.toSource g.options with
  | error e => rfl
  | ok source => exact g.templates_render source

end Generator

/-- A configuration in which users have a default, for which it names no provider. -/
def Settings.unprovided : Settings :=
  ({ conventions := .ok { defaultedParameters := ["user"] } } : Options).toSettings

/-- A schema with an event that takes a user. -/
def Schema.withUser : Schema where
  projectId := "shop"
  versionNumber := 3
  events := [
    { id := 1, name := "signed in", parameters := [
        { name := "user", type := .named "User" }, { name := "item", type := .primitive .string }] }]
  types := [{ name := "User", stringEnum := some ["guest", "member"] }]

/-- A generator that has failed half-way has other scopes than a new one, and is as good. -/
theorem Generator.generate_carriesNothing_failed :
    ∃ g, create .python Settings.unprovided = .ok g ∧
      (g.generate Schema.withUser).1 = .error (.noProvider "user") ∧
      (g.generate Schema.withUser).2.emitter ≠ g.emitter ∧
      ∀ schema, ((g.generate Schema.withUser).2.generate schema).1 = (g.generate schema).1 := by
  obtain ⟨g, hcreate, hfails, hchanged⟩ : ∃ g, create .python Settings.unprovided = .ok g ∧
      (g.generate Schema.withUser).1 = .error (.noProvider "user") ∧
      (g.generate Schema.withUser).2.emitter ≠ g.emitter :=
    ⟨_, rfl, by decide +kernel, by decide +kernel⟩
  have hbecomes : g.Becomes (g.generate Schema.withUser).2 := .use (.generate Schema.withUser) .refl
  have hall := generate_carriesNothing hcreate hbecomes (templates_generate g _)
  exact ⟨g, hcreate, hfails, hchanged, fun schema => (hall.1 schema).1⟩

end TrackingPlan
