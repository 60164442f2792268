import TrackingPlan.Proofs.Generator.Fresh
import TrackingPlan.Proofs.Kotlin.Literals
import TrackingPlan.Proofs.Python.Literals
import TrackingPlan.Proofs.Source.Textual

/-!
# What keeps a source from being written

Under textual options only a default without a provider keeps a source from being written in the
layouts of a language. Kotlin looks providers up when it has written the records of a function,
Python before it writes those of a method, but both go through the functions and their parameters
in one order. So each misses the first default that has no provider, and as they know providers for
the same names when no settings of a language say otherwise, it is the same default.

Key definitions: `EventFunction.unprovided?`, `SourceFile.unprovided?`.
Key theorems: `Kotlin.File.failure?_print`, `Python.Module.failure?_print`,
`SourceFile.noProvider_of_unprovided?`, `SourceFile.unprovided?_eq`.
-/

namespace TrackingPlan

open Steps

/-- The failure of the first default without a provider, if there is one. -/
def EventFunction.unprovided? (f : EventFunction) (providers : Providers) :
    Option GenerationError :=
  f.parameters.findSome? fun p =>
    p.defaultName.bind fun name => failure? (providers.expression name)

/-- The failure of the first default of a source without a provider, if there is one. -/
def SourceFile.unprovided? (source : SourceFile) (providers : Providers) :
    Option GenerationError :=
  source.functions.findSome? fun f => f.unprovided? providers

variable {options : Options} {source : SourceFile} {f : EventFunction} {names : List String}

/-! ### Providers -/

/-- A provider that gives a text. -/
theorem Providers.exists_text_of_expression {pairs : List (String × String)} {name : String}
    {e : Json} (h : (Providers.ofTexts pairs).expression name = .ok e) : ∃ text, e = .str text := by
  unfold Providers.expression Table.lookup? at h
  cases hfind : (Providers.ofTexts pairs).find? fun q => q.1 = .str name with
  | none =>
    rw [hfind] at h
    exact nomatch h
  | some q =>
    rw [hfind] at h
    obtain ⟨⟨_, text⟩, -, rfl⟩ := List.mem_map.mp (List.mem_of_find?_eq_some hfind)
    exact ⟨text, (Except.ok.inj h).symm⟩

/-! ### Kotlin -/

namespace Kotlin

theorem exists_expression (h : options.Textual) (e : Expression) :
    ∃ value text, expressionOf options {} e = some value ∧ value.display? = some text := by
  obtain ⟨conventions, hconventions, htextual⟩ := h.conventions
  obtain ⟨field, hfield⟩ := htextual.enumValueField
  have hvalue : valueField? options = some (escapeIdentifier field) := by
    unfold valueField?
    rw [hconventions]
    simp only [hfield]
    rfl
  fun_cases expressionOf options {} e with
  | case4 => exact ⟨_, _, by rw [hvalue]; rfl, rfl⟩
  | _ => exact ⟨_, _, rfl, rfl⟩

/-- A record with texts as its keys can always be written. -/
theorem Record.exists_print (names : List String) (h : options.Textual)
    {r : EventRecord} (hr : ∀ e ∈ r.entries, ∃ s, e.key = .str s) :
    ∃ text, (Record.of options {} r).print {} (.builtin names) = .ok text := by
  have hwritten : ∀ e ∈ r.entries, ∃ written, Written options {} e written := by
    intro e he
    obtain ⟨key, hkey⟩ := hr e he
    obtain ⟨value, text, hvalue, htext⟩ := exists_expression h e.value
    exact ⟨(stringLiteral key, text), by rw [hkey]; rfl, by rw [hvalue]; exact htext⟩
  obtain ⟨entries, hentries⟩ := Pairing.exists_of_forall hwritten
  have hnone : (Record.of options {} r).entries.any (·.2.isNone) = false := by
    simp only [Record.of, List.any_map, List.any_eq_false, Function.comp_apply]
    intro e he
    obtain ⟨value, _, hvalue, -⟩ := exists_expression h e.value
    rw [hvalue]
    exact Bool.false_ne_true
  exact ⟨_, print_eq_ok.mpr ⟨hnone, _, entries, rfl, entries?_eq_some.mpr hentries, rfl⟩⟩

theorem Parameter.failure?_print (p : ParameterDefinition) :
    failure? ((Parameter.of p).print {}) =
      p.defaultName.bind fun name => failure? (({} : Style).providers.expression name) := by
  unfold Parameter.print Parameter.of
  cases p.defaultName with
  | none => rfl
  | some name =>
    refine failure?_bind_of_ok fun e he => ?_
    obtain ⟨text, rfl⟩ := Providers.exists_text_of_expression he
    rfl

/-- A function fails where a provider is missing. -/
theorem Function.failure?_print (h : options.Textual)
    (hf : ∀ r ∈ f.records, ∀ e ∈ r.entries, ∃ s, e.key = .str s) :
    failure? ((Function.of options {} f).print {} (.builtin names)) =
      f.unprovided? ({} : Style).providers := by
  obtain ⟨business, hbusiness⟩ : ∃ business, (Function.of options {} f).business.print {}
      (.builtin names) = .ok business :=
    Record.exists_print names h (hf f.business List.mem_cons_self)
  obtain ⟨publish, hpublish⟩ : ∃ publish, (Function.of options {} f).publish.mapM
      (·.print {} (.builtin names)) = .ok publish := by
    rw [← failure?_eq_none, failure?_optionMapM, Option.bind_eq_none_iff]
    intro record hrecord
    obtain ⟨r, hr, rfl⟩ := Option.map_eq_some_iff.mp hrecord
    exact failure?_eq_none.mpr (Record.exists_print names h (hf r (f.mem_records_of_publish hr)))
  have hparameters : failure? ((Function.of options {} f).parameters.mapM (·.print {})) =
      f.unprovided? ({} : Style).providers := by
    rw [failure?_mapM, Function.of, List.findSome?_map]
    exact congrArg f.parameters.findSome? (funext Parameter.failure?_print)
  rw [Function.print, bind_of_ok hbusiness, bind_of_ok hpublish, ← hparameters]
  refine failure?_bind_of_ok fun parameters _ => ?_
  rw [Function.text?, Function.arguments]
  cases publish <;> cases (Function.of options {} f).consumerTags <;> rfl

/-- **The Kotlin of a textual source fails where a provider is missing.** -/
theorem File.failure?_print (h : options.Textual) (hsource : source.Textual) :
    failure? ((File.ofSource options {} source).print {} (.builtin names)) =
      source.unprovided? ({} : Style).providers := by
  obtain ⟨objectName, hobject⟩ := hsource.objectName
  obtain ⟨packageName, hpackage⟩ := h.packageName
  have hfunctions : failure? ((File.ofSource options {} source).functions.mapM
      (·.print {} (.builtin names))) = source.unprovided? ({} : Style).providers := by
    rw [failure?_mapM, File.ofSource, List.findSome?_map]
    have hall : List.Forall₂ (fun f f' : EventFunction =>
        failure? ((Function.of options {} f).print {} (.builtin names)) =
          f'.unprovided? ({} : Style).providers) source.functions source.functions :=
      List.forall₂_same.mpr fun f hf => Function.failure?_print h (hsource.keys f hf)
    exact Pairing.findSome?_eq hall fun hf => hf
  obtain ⟨enums, henums⟩ : ∃ enums, (File.ofSource options {} source).enums.mapM
      (·.print (.builtin names)) = .ok enums := by
    rw [← failure?_eq_none, failure?_mapM, File.ofSource, List.findSome?_map,
      List.findSome?_eq_none_iff]
    intro e he
    obtain ⟨field, hfield⟩ := hsource.valueFields e he
    rw [Function.comp_apply, EnumClass.print, EnumClass.of, hfield]
    rfl
  have hname : (File.ofSource options {} source).objectName =
      some (.str (escapeIdentifier objectName)) := by
    rw [File.ofSource, hobject]
    rfl
  rw [File.print, ← hfunctions]
  refine failure?_bind_of_ok fun functions _ => ?_
  obtain ⟨text, htext⟩ : ∃ text, (File.ofSource options {} source).text? {}
      (.str (escapeIdentifier objectName)) functions enums = some text := by
    rw [File.text?, File.versionLines?, File.ofSource, hpackage]
    cases source.schemaVersion <;> exact ⟨_, rfl⟩
  rw [bind_of_ok henums, hname]
  simp only [htext]
  rfl

end Kotlin

/-! ### Python -/

namespace Python

/-- The value of an entry can be written. -/
theorem exists_expressionText (f : EventFunction) (e : Expression) :
    ∃ text, f.expressionText {} e = some text := by
  cases e <;> exact ⟨_, rfl⟩

/-- A record with texts as its keys can always be written. -/
theorem Record.exists_print (names : List String) {r : EventRecord}
    (hr : ∀ e ∈ r.entries, ∃ s, e.key = .str s) :
    ∃ text, (f.recordOf {} r).print {} (.builtin names) = .ok text := by
  have hwritten : ∀ e ∈ r.entries, ∃ written, Written {} f e written := by
    intro e he
    obtain ⟨key, hkey⟩ := hr e he
    obtain ⟨value, hvalue⟩ := exists_expressionText f e.value
    exact ⟨(stringLiteral key, value), by rw [hkey]; rfl, hvalue⟩
  obtain ⟨entries, hentries⟩ := Pairing.exists_of_forall hwritten
  exact ⟨_, print_eq_ok.mpr ⟨_, entries, rfl, entries?_recordOf.mpr hentries, rfl⟩⟩

theorem Guard.exists_shown {g : Guard} {default : String × Json}
    (h : g.resolve {} = .ok default) : ∃ text, default.2.display? = some text := by
  simp only [Guard.resolve, bind_eq_ok, pure_eq_ok] at h
  obtain ⟨e, he, rfl⟩ := h
  obtain ⟨text, rfl⟩ := Providers.exists_text_of_expression he
  exact ⟨text, rfl⟩

/-- A method fails where a provider is missing. -/
theorem Method.Writes.failure?_print {m : Method} (h : m.Writes {} f)
    (hf : ∀ r ∈ f.records, ∀ e ∈ r.entries, ∃ s, e.key = .str s) :
    failure? (m.print {} (.builtin names)) = f.unprovided? ({} : Style).providers := by
  obtain ⟨business, hbusiness⟩ : ∃ business, m.business.print {} (.builtin names) = .ok business :=
    h.business ▸ Record.exists_print names (hf f.business List.mem_cons_self)
  obtain ⟨publish, hpublish⟩ : ∃ publish, m.publish.mapM (·.print {} (.builtin names)) =
      .ok publish := by
    rw [← failure?_eq_none, failure?_optionMapM, Option.bind_eq_none_iff, h.publish]
    intro record hrecord
    obtain ⟨r, hr, rfl⟩ := Option.map_eq_some_iff.mp hrecord
    exact failure?_eq_none.mpr (Record.exists_print names (hf r (f.mem_records_of_publish hr)))
  have hguards : failure? (m.guards.mapM (·.resolve {})) =
      f.unprovided? ({} : Style).providers := by
    rw [failure?_mapM, h.guards, EventFunction.guards, ← List.head?_filterMap,
      List.filterMap_filterMap, List.head?_filterMap]
    refine congrArg f.parameters.findSome? (funext fun p => ?_)
    cases p.defaultName with
    | none => rfl
    | some name => exact failure?_bind_of_ok fun _ _ => rfl
  rw [Method.print, ← hguards]
  refine failure?_bind_of_ok fun defaults hdefaults => ?_
  obtain ⟨shown, hshown⟩ : ∃ shown, List.Forall₂ (fun (default : String × Json) written =>
      (do return (default.1, ← default.2.display?)) = some written) defaults shown := by
    refine Pairing.exists_of_forall fun default hdefault => ?_
    obtain ⟨g, -, hg⟩ := Pairing.exists_left (mapM_eq_ok.mp hdefaults) hdefault
    obtain ⟨text, htext⟩ := Guard.exists_shown hg
    exact ⟨(default.1, text), by rw [htext]; rfl⟩
  rw [bind_of_ok hbusiness, bind_of_ok hpublish, Method.text?, mapM_eq_some.mpr hshown,
    Method.arguments]
  cases publish <;> cases m.consumerTags <;> rfl

/-- The names that a module imports from the runtime are texts. -/
theorem exists_runtimeImports (usesContext : Bool) :
    ∃ imports shown, ({} : Style).runtimeImports usesContext = .ok imports ∧
      imports.mapM (·.display?) = some shown := by
  cases usesContext <;> exact ⟨_, _, rfl, rfl⟩

/-- **The Python of a textual source fails where a provider is missing.** -/
theorem Module.failure?_print {m : Module}
    (hm : List.Forall₂ (fun f (method : Method) => method.Writes {} f) source.functions
      m.methods) (hobject : m.objectName = source.objectName) (hsource : source.Textual) :
    failure? (m.print {} (.builtin names)) = source.unprovided? ({} : Style).providers := by
  obtain ⟨objectName, hname⟩ := hsource.objectName
  obtain ⟨imports, shown, himports, hshown⟩ := exists_runtimeImports m.usesContext
  have hmethods : failure? (m.methods.mapM (·.print {} (.builtin names))) =
      source.unprovided? ({} : Style).providers := by
    rw [failure?_mapM]
    have hall : List.Forall₂ (fun f (method : Method) =>
        f.unprovided? ({} : Style).providers = failure? (method.print {} (.builtin names)))
        source.functions m.methods :=
      Pairing.mono_of_mem hm fun hf hwrites => (hwrites.failure?_print (hsource.keys _ hf)).symm
    exact (Pairing.findSome?_eq hall id).symm
  rw [Module.print, bind_of_ok (enums_printed m), ← hmethods]
  refine failure?_bind_of_ok fun methods _ => ?_
  rw [bind_of_ok himports, Module.text?, hobject, hname, hshown, Module.versionLines?]
  cases m.schemaVersion <;> rfl

end Python

/-! ### The same providers -/

/-- Which provider is missing depends on the names that have one. -/
theorem Providers.failure?_expression (p : Providers) (name : String) :
    failure? (p.expression name) =
      if .str name ∈ p.map (·.1) then none else some (.noProvider name) := by
  unfold Providers.expression Table.lookup?
  cases hfind : p.find? fun q => q.1 = .str name with
  | none =>
    have hmissing : .str name ∉ p.map (·.1) := by
      intro hmem
      obtain ⟨q, hq, hname⟩ := List.mem_map.mp hmem
      exact absurd (decide_eq_true hname) (List.find?_eq_none.mp hfind q hq)
    rw [if_neg hmissing]
    rfl
  | some q =>
    have hname : q.1 = .str name := by simpa using List.find?_some hfind
    rw [if_pos (hname ▸ List.mem_map_of_mem (List.mem_of_find?_eq_some hfind))]
    rfl

/-- What keeps a source from being written is a missing provider. -/
theorem SourceFile.noProvider_of_unprovided? {providers : Providers} {e : GenerationError}
    (h : source.unprovided? providers = some e) : ∃ name, e = .noProvider name := by
  obtain ⟨f, -, hf⟩ := List.exists_of_findSome?_eq_some h
  obtain ⟨p, -, hp⟩ := List.exists_of_findSome?_eq_some hf
  obtain ⟨name, -, hname⟩ := Option.bind_eq_some_iff.mp hp
  rw [Providers.failure?_expression] at hname
  split at hname
  · exact absurd hname (by simp)
  · exact ⟨name, (Option.some.inj hname).symm⟩

/-- Without settings of the language Kotlin and Python know providers for the same names. -/
theorem SourceFile.unprovided?_eq (source : SourceFile) :
    source.unprovided? ({} : Kotlin.Style).providers =
      source.unprovided? ({} : Python.Style).providers := by
  have hnames (name : String) : failure? (({} : Kotlin.Style).providers.expression name) =
      failure? (({} : Python.Style).providers.expression name) := by
    rw [Providers.failure?_expression, Providers.failure?_expression]
    rfl
  simp only [unprovided?, EventFunction.unprovided?, hnames]

end TrackingPlan
