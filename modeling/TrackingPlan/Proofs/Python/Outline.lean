import TrackingPlan.Proofs.Python.Scopes
import TrackingPlan.Proofs.Source.Function

/-!
# Where the names of a Python module come from

The scopes that a module starts with do not matter: the classes are named in a scope with nothing
but the names that the module takes for itself, the methods in an empty scope, and the parameters
of every method in an empty scope of their own. In each of them the names are handed out in order,
the parameters of a method in the order of its signature; guards and records ask for names that
are known by then, so they show the same ones.

Key definitions: `EventFunction.localName`, `EventFunction.expressionText`, `Method.Writes`.
Key theorems: `Module.enumNames_eq`, `Module.methodNames_eq`, `Module.methods_write`.
-/

namespace TrackingPlan

open Naming Python Steps

/-! ### The names in one method -/

namespace EventFunction

/-- The scope of the parameters of a function when its signature is written. -/
def localScope (f : EventFunction) : Scope :=
  (Scope.sanitizeAll .snake emptyScope (f.parameters.map (·.identifier))).2

/-- The name that the parameter with an identifier has in a method. -/
def localName (f : EventFunction) (identifier : String) : String :=
  (f.localScope.sanitize identifier .snake).1

/-- The text of a value in a method, if it can be written. -/
def expressionText (f : EventFunction) (style : Style) : Expression → Option String
  | .literal text => some (stringLiteral text)
  | .parameter identifier type conversion =>
    some (converted (f.localName identifier) type conversion)
  | .schemaVersion => style.schemaVersionConstant.display?

/-- A record in a method. -/
def recordOf (f : EventFunction) (style : Style) (r : EventRecord) : Python.Record where
  name := stringLiteral r.name
  entries := r.entries.map fun e => (keyLiteral? e.key, f.expressionText style e.value)

/-- The guards of a method: one for each parameter with a default. -/
def guards (f : EventFunction) : List Guard :=
  f.parameters.filterMap fun p =>
    p.defaultName.map fun defaultName => ⟨f.localName p.identifier, defaultName⟩

variable {f : EventFunction} {identifier : String}

theorem localScope_knows (h : identifier ∈ f.parameters.map (·.identifier)) :
    f.localScope.Knows .snake identifier (f.localName identifier) := by
  obtain ⟨answer, -, hknows⟩ := Pairing.exists_right
    (Scope.sanitizeAll_knows .snake emptyScope (f.parameters.map (·.identifier))) h
  have hname : f.localName identifier = answer := by
    rw [localName, localScope, hknows.sanitize_eq]
  exact hname ▸ hknows

/-- The names of the signature. -/
theorem sanitizeAll_parameters (f : EventFunction) :
    (Scope.sanitizeAll .snake emptyScope (f.parameters.map (·.identifier))).1 =
      f.parameters.map (f.localName ·.identifier) := by
  rw [Scope.sanitizeAll_eq_map, List.map_map]
  rfl

end EventFunction

namespace Python

variable {f : EventFunction} {s : Scopes} {style : Style}

/-- A method that writes a function: one name stands for each parameter in the signature, in the
guards and in the records. -/
structure Method.Writes (style : Style) (f : EventFunction) (m : Method) : Prop where
  parameterNames : m.parameters.map (·.name) = f.parameters.map (f.localName ·.identifier)
  guards : m.guards = f.guards
  business : m.business = f.recordOf style f.business
  publish : m.publish = f.publish.map (f.recordOf style)

/-! ### The signature -/

theorem typeOf_locals (type : ParameterType) (s : Scopes) :
    (typeOf type s).2.locals = s.locals := by
  cases type <;> rfl

/-- The parameters are named in order. -/
theorem parameters_names : ∀ (ps : List ParameterDefinition) (s : Scopes),
    (((ps.mapM Parameter.of s).1).map (·.name), (ps.mapM Parameter.of s).2.locals) =
      Scope.sanitizeAll .snake s.locals (ps.map (·.identifier))
  | [], _ => rfl
  | p :: ps, s => by
    have hlocals : (Parameter.of p s).2.locals = (s.locals.sanitize p.identifier .snake).2 :=
      typeOf_locals p.type _
    have ih := parameters_names ps (Parameter.of p s).2
    rw [hlocals] at ih
    rw [mapM_cons_apply, List.map_cons, List.map_cons, Scope.sanitizeAll_cons, ← ih]
    rfl

/-! ### The guards and the records -/

theorem localName_apply (hs : s.locals = f.localScope) {identifier : String}
    (h : identifier ∈ f.parameters.map (·.identifier)) :
    localName identifier s = (f.localName identifier, s) := by
  simp only [localName, hs, (EventFunction.localScope_knows h).sanitize_eq]
  rw [← hs]

theorem guard_apply (hs : s.locals = f.localScope) {p : ParameterDefinition}
    (hp : p ∈ f.parameters) : Guard.of? p s =
      (p.defaultName.map fun defaultName => ⟨f.localName p.identifier, defaultName⟩, s) := by
  unfold Guard.of?
  cases p.defaultName with
  | none => rfl
  | some defaultName =>
    simp only [bind_apply, localName_apply hs (List.mem_map_of_mem hp)]
    rfl

theorem guards_apply (hs : s.locals = f.localScope) : f.parameters.mapM Guard.of? s =
    (f.parameters.map fun p =>
      p.defaultName.map fun defaultName => ⟨f.localName p.identifier, defaultName⟩, s) :=
  mapM_apply_of_fixed fun _ hp => guard_apply hs hp

theorem expression_apply (hs : s.locals = f.localScope) {e : Entry} (he : e.Closed f) :
    expressionOf style e.value s = (f.expressionText style e.value, s) := by
  cases hv : e.value with
  | literal text => rfl
  | schemaVersion => rfl
  | parameter identifier type conversion =>
    obtain ⟨-, p, hp, rfl, -⟩ := he hv
    simp only [expressionOf, bind_apply, localName_apply hs (List.mem_map_of_mem hp)]
    rfl

theorem record_apply (hs : s.locals = f.localScope) {r : EventRecord}
    (hr : ∀ e ∈ r.entries, e.Closed f) : Record.of style r s = (f.recordOf style r, s) := by
  have hentries : r.entries.mapM (fun e => (do
      return (keyLiteral? e.key, ← expressionOf style e.value) :
        Names (Option String × Option String))) s =
        (r.entries.map fun e => (keyLiteral? e.key, f.expressionText style e.value), s) :=
    mapM_apply_of_fixed fun e he => by
      rw [bind_apply, expression_apply hs (hr e he)]
      rfl
  rw [Record.of, bind_apply, hentries]
  rfl

theorem publish_apply (hs : s.locals = f.localScope)
    (hf : ∀ r ∈ f.records, ∀ e ∈ r.entries, e.Closed f) :
    f.publish.mapM (Record.of style) s = (f.publish.map (f.recordOf style), s) := by
  cases hp : f.publish with
  | none => rfl
  | some r =>
    exact congrArg (fun x : Python.Record × Scopes => (some x.1, x.2))
      (record_apply hs (hf r (f.mem_records_of_publish hp)))

/-- A method writes its function, when its records refer to no other parameters. -/
theorem method_writes (options : Options) (hs : s.Worded)
    (hf : ∀ r ∈ f.records, ∀ e ∈ r.entries, e.Closed f) :
    (Method.of options style f s).1.Writes style f := by
  let start : Scopes := (startMethod (methodName f.identifier s).2).2
  have hstart : start.locals = emptyScope := hs.locals.clear_eq
  have hnames := parameters_names f.parameters start
  rw [hstart] at hnames
  obtain ⟨hsignature, hlocals⟩ := Prod.mk.inj hnames
  let signed : Scopes := (f.parameters.mapM Parameter.of start).2
  have hsigned : signed.locals = f.localScope := hlocals
  have hmethod : Method.of options style f s = ({
      name := (methodName f.identifier s).1
      docstring := Python.docstring options.addComments f.description
      parameters := (f.parameters.mapM Parameter.of start).1
      guards := f.guards
      business := f.recordOf style f.business
      publish := f.publish.map (f.recordOf style)
      consumerTags := f.consumerTags.map (·.map stringLiteral) }, signed) := by
    simp only [Method.of, bind_apply]
    rw [guards_apply hsigned, record_apply hsigned (hf _ List.mem_cons_self),
      publish_apply hsigned hf, EventFunction.guards]
    simp only [List.filterMap_map, Function.id_comp]
    rfl
  rw [hmethod]
  exact ⟨hsignature.trans f.sanitizeAll_parameters, rfl, rfl, rfl⟩

/-! ### The module -/

theorem enums_names : ∀ (es : List Enumeration) (s : Scopes),
    (es.mapM EnumClass.of s).1.map (·.name) =
        (Scope.sanitizeAll .preserve s.classes (es.map (·.identifier))).1
  | [], _ => rfl
  | e :: es, s => by
    rw [mapM_cons_apply, List.map_cons, enums_names es]
    rfl

theorem methods_names (options : Options) (style : Style) : ∀ (fs : List EventFunction)
    (s : Scopes), (fs.mapM (Method.of options style) s).1.map (·.name) =
      (Scope.sanitizeAll .snake s.methods (fs.map (·.identifier))).1
  | [], _ => rfl
  | f :: fs, s => by
    have hmethods : (Method.of options style f s).2.methods =
        (s.methods.sanitize f.identifier .snake).2 :=
      sameMethods_isFrame.methodOf options style f s
    rw [mapM_cons_apply, List.map_cons, methods_names options style fs, hmethods]
    rfl

theorem methods_write (options : Options) (style : Style) : ∀ {fs : List EventFunction}
    {s : Scopes}, s.Worded → (∀ f ∈ fs, ∀ r ∈ f.records, ∀ e ∈ r.entries, e.Closed f) →
      List.Forall₂ (fun f (m : Method) => m.Writes style f) fs
        (fs.mapM (Method.of options style) s).1
  | [], _, _, _ => .nil
  | f :: fs, s, hs, hfs => by
    rw [mapM_cons_apply]
    exact .cons (method_writes options hs (hfs f List.mem_cons_self))
      (methods_write options style (methodOf_keepsWords options style f s hs)
        fun f' hf' => hfs f' (List.mem_cons_of_mem f hf'))

namespace Module

variable {options : Options} {taken : List String} {source : SourceFile}

/-- The enumerations take no names of methods. -/
theorem enums_methods (es : List Enumeration) : Respects (fun s t => t.methods = s.methods)
    (es.mapM EnumClass.of) :=
  sameMethods_isFrame.mapM sameMethods_isFrame.enumOf es

/-- The classes are named in a scope with nothing but the names taken by the module. -/
theorem enumNames_eq (hs : s.Worded) :
    (Module.ofSource options style taken source s).1.enums.map (·.name) =
      (Scope.sanitizeAll .preserve (moduleScope taken emptyScope)
        (source.enums.map (·.identifier))).1 := by
  rw [← hs.classes.moduleScope_eq taken]
  exact enums_names source.enums (startModule taken s).2

/-- The methods are named in an empty scope. -/
theorem methodNames_eq (hs : s.Worded) :
    (Module.ofSource options style taken source s).1.methods.map (·.name) =
      (Scope.sanitizeAll .snake emptyScope (source.functions.map (·.identifier))).1 := by
  have hmethods := enums_methods source.enums (startModule taken s).2
  have hclear : (startModule taken s).2.methods = emptyScope := hs.methods.clear_eq
  rw [← hclear, ← hmethods]
  exact methods_names options style source.functions _

/-- **Every method writes its function.** -/
theorem methods_write (hs : s.Worded)
    (hfs : ∀ f ∈ source.functions, ∀ r ∈ f.records, ∀ e ∈ r.entries, e.Closed f) :
    List.Forall₂ (fun f (m : Method) => m.Writes style f) source.functions
      (Module.ofSource options style taken source s).1.methods := by
  have hstart := startModule_keepsWords taken s hs
  have henums := keepsWords_isFrame.mapM keepsWords_isFrame.enumOf source.enums _ hstart
  exact Python.methods_write options style henums hfs

end Module
end Python
end TrackingPlan
