import TrackingPlan.Proofs.Generator.Use

/-!
# The namespaces of a Python module

When the identifiers of a source differ, so do the names that a module gives to its enumerations,
to its methods and to the parameters of each method; an enumeration never gets a name that the
module takes for itself, and a parameter none that the body of its method uses.

Key definitions: `Module.fixedNames`, `Method.usedNames`, `Module.KeepsNamesApart`.
Key theorems: `Method.Writes.parameterNames_nodup`, `Module.keepsNamesApart`,
`Generator.module_keepsNamesApart`.
-/

namespace TrackingPlan
namespace Python

open Naming

/-- The names that a module takes for itself under the usual style. -/
def Module.fixedNames (objectName : String) : List String :=
  ["annotations", "DualEvent", "RawEvent", "AnalyticsContext", "_SCHEMA_VERSION", "Enum",
    objectName]

/-- Those of them that the module takes in the scope of its classes. -/
def Module.takenNames (objectName : String) : List String :=
  ["annotations", "DualEvent", "RawEvent", "AnalyticsContext", "_SCHEMA_VERSION", objectName]

/-- The names that the body of a method uses under the usual style. -/
def Method.usedNames : List String :=
  ["DualEvent", "RawEvent", "AnalyticsContext", "_SCHEMA_VERSION", "str"]

/-- No name of a module hides another one in its namespace. -/
structure Module.KeepsNamesApart (objectName : String) (m : Module) : Prop where
  enums_nodup : (m.enums.map (·.name)).Nodup
  enums_free : ∀ e ∈ m.enums, e.name ∉ fixedNames objectName
  methods_nodup : (m.methods.map (·.name)).Nodup
  parameters_nodup : ∀ method ∈ m.methods, (method.parameters.map (·.name)).Nodup
  parameters_free : ∀ method ∈ m.methods, ∀ p ∈ method.parameters, p.name ∉ Method.usedNames

variable {style : Style} {f : EventFunction} {s : Scopes} {options : Options}
  {taken : List String} {source : SourceFile}

/-! ### The parameters -/

theorem Method.Writes.parameterNames_nodup {m : Method} (h : m.Writes style f)
    (hf : (f.parameters.map (·.identifier)).Nodup) : (m.parameters.map (·.name)).Nodup := by
  rw [h.parameterNames, ← f.sanitizeAll_parameters]
  exact Scope.sanitizeAll_nodup (.of_no_answers rfl) hf

theorem Method.Writes.parameterNames_safe {m : Method} (h : m.Writes style f) {p : Parameter}
    (hp : p ∈ m.parameters) : emptyScope.Safe .snake p.name := by
  have hname : p.name ∈ m.parameters.map (·.name) := List.mem_map_of_mem hp
  rw [h.parameterNames, ← f.sanitizeAll_parameters] at hname
  exact Scope.sanitizeAll_safe rfl (Worded.plainWords ⟨rfl, rfl⟩) hname

/-- A name in snake case that is no builtin is none that a body uses: the others have upper case
letters. -/
theorem not_mem_usedNames {name : String} (h : emptyScope.Safe .snake name) :
    name ∉ Method.usedNames := by
  have hupper : ∀ w ∈ Method.usedNames, w = "str" ∨ w.toList.any Char.isUpper = true := by decide
  intro hname
  rcases hupper name hname with rfl | hany
  · exact h.notBuiltin (by decide)
  · obtain ⟨c, hc, hcu⟩ := List.any_eq_true.mp hany
    rw [h.isLower rfl c hc] at hcu
    exact nomatch hcu

/-! ### The classes and the methods -/

namespace Module

theorem enumNames_nodup (hs : s.Worded) (hn : (source.enums.map (·.identifier)).Nodup) :
    ((Module.ofSource options style taken source s).1.enums.map (·.name)).Nodup := by
  rw [enumNames_eq hs]
  exact Scope.sanitizeAll_nodup (.of_no_answers (answers_moduleScope taken)) hn

/-- An enumeration has neither a name that the module takes for itself nor that of a builtin. -/
theorem enumNames_free (hs : s.Worded) {e : EnumClass}
    (he : e ∈ (Module.ofSource options style taken source s).1.enums) :
    e.name ∉ taken ∧ e.name ∉ builtins := by
  have hname : e.name ∈ (Module.ofSource options style taken source s).1.enums.map (·.name) :=
    List.mem_map_of_mem he
  rw [enumNames_eq hs] at hname
  have hwords := worded_moduleScope taken
  constructor
  · rw [← mem_used_moduleScope]
    exact Scope.sanitizeAll_fresh (answers_moduleScope taken) hname
  · rw [← hwords.2]
    exact (Scope.sanitizeAll_safe (answers_moduleScope taken) hwords.plainWords hname).notBuiltin

theorem methodNames_nodup (hs : s.Worded) (hn : (source.functions.map (·.identifier)).Nodup) :
    ((Module.ofSource options style taken source s).1.methods.map (·.name)).Nodup := by
  rw [methodNames_eq hs]
  exact Scope.sanitizeAll_nodup (.of_no_answers rfl) hn

/-- **The module of a schema keeps its names apart**, when its source has no conflicts. -/
theorem keepsNamesApart {schema : Schema} {objectName : String} (hs : s.Worded)
    (hsource : schema.toSource options = .ok source) (hconflicts : source.conflicts = []) :
    (Module.ofSource options style (takenNames objectName) source s).1.KeepsNamesApart
      objectName := by
  obtain ⟨hfunctions, henums, -⟩ := SourceFile.conflicts_eq_nil.mp hconflicts
  have hwrite : List.Forall₂ (fun f (method : Method) => method.Writes style f) source.functions
      (Module.ofSource options style (takenNames objectName) source s).1.methods :=
    methods_write hs (Schema.closed_of_toSource hsource)
  refine ⟨enumNames_nodup hs henums, ?_, methodNames_nodup hs hfunctions, ?_, ?_⟩
  · intro e he hfixed
    obtain ⟨htaken, hbuiltin⟩ := enumNames_free hs he
    simp only [fixedNames, takenNames, List.mem_cons, List.not_mem_nil, or_false] at hfixed htaken
    have hEnum : e.name ≠ "Enum" := by
      intro h
      exact hbuiltin (h ▸ by decide)
    tauto
  · intro method hmethod
    obtain ⟨f, hf, hw⟩ := Pairing.exists_left hwrite hmethod
    obtain ⟨event, -, hevent⟩ := Schema.event_of_mem_functions hsource hf
    exact hw.parameterNames_nodup (Event.identifiers_nodup hevent)
  · intro method hmethod p hp
    obtain ⟨f, -, hw⟩ := Pairing.exists_left hwrite hmethod
    exact not_mem_usedNames (hw.parameterNames_safe hp)

end Module
end Python

/-- **A generator for Python keeps the names of every namespace apart**, however it was used
before: when it has no settings for the language and the source of a schema has no conflicts,
no enumeration, method or parameter of the module hides another name. -/
theorem Generator.module_keepsNamesApart {settings : Settings} {schema : Schema}
    {source : SourceFile} {className : String} (hlanguage : settings.language = .ok [])
    (hname : settings.get "output_class_name" = .str className)
    (hsource : schema.toSource settings.options = .ok source)
    (hconflicts : source.conflicts = []) :
    ∃ g, Generator.create .python settings = .ok g ∧ ∀ h, g.Reaches h →
      ∃ m, h.module? source = some ({}, m) ∧ m.objectName = .str className ∧
        (h.render source).1 = m.print {} h.templates ∧
        (h.generate schema).1 = m.print {} h.templates ∧ m.KeepsNamesApart className := by
  have hcreate : Generator.create .python settings = .ok {
      settings, emitter := .python {} {}, templates := .builtin Python.layoutNames } :=
    create_python_eq_ok.mpr ⟨[], {}, hlanguage, rfl, rfl⟩
  refine ⟨_, hcreate, fun h hreach => ?_⟩
  obtain ⟨hsettings, language, style, scopes, hlanguage', hstyle, hemitter, hscopes⟩ :=
    emitter_of_create_python hcreate hreach
  obtain rfl : [] = language := Except.ok.inj (hlanguage.symm.trans hlanguage')
  obtain rfl : {} = style := Except.ok.inj hstyle
  have hobject : source.objectName = .str className := by
    obtain ⟨_, _, -, -, -, rfl, -⟩ := Schema.toSource_eq_ok.mp hsource
    exact hname
  have htaken : Python.Style.moduleNames {} source.objectName =
      .ok (Python.Module.takenNames className) := by
    rw [hobject]
    rfl
  have hmodule := module?_of_emitter hemitter htaken
  have hoptions : schema.toSource h.options = .ok source := by
    rw [options, hsettings]
    exact hsource
  refine ⟨_, hmodule, hobject, render_eq_print hmodule, ?_,
    Python.Module.keepsNamesApart hscopes hoptions hconflicts⟩
  rw [← render_eq_print hmodule, generate, hoptions]

/-- A schema in which events, parameters and types ask for names that are taken by then. -/
def Schema.crowded : Schema where
  projectId := "shop"
  versionNumber := 3
  events := [
    { id := 1, name := "pageOpened", parameters := [
        { name := "page-name", type := .named "DualEvent" },
        { name := "pageName", type := .primitive .integer }] },
    { id := 2, name := "page-opened" }]
  types := [{ name := "DualEvent", stringEnum := some ["home", "cart"] }]

theorem Generator.module_keepsNamesApart_crowded :
    ∃ source g, Schema.crowded.toSource Settings.default.options = .ok source ∧
      Generator.create .python Settings.default = .ok g ∧ ∀ h, g.Reaches h →
        ∃ m, h.module? source = some ({}, m) ∧ m.KeepsNamesApart "AnalyticsEvent" := by
  have hcrowded : (Schema.crowded.toSource Settings.default.options).map (·.conflicts) = .ok [] :=
    rfl
  obtain ⟨source, hsource, hconflicts⟩ := Steps.map_eq_ok.mp hcrowded
  obtain ⟨g, hg, hall⟩ := module_keepsNamesApart rfl rfl hsource hconflicts
  refine ⟨source, g, hsource, hg, fun h hreach => ?_⟩
  obtain ⟨m, hm, -, -, -, hapart⟩ := hall h hreach
  exact ⟨m, hm, hapart⟩

end TrackingPlan
