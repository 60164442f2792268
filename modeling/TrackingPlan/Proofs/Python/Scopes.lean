import TrackingPlan.Proofs.Naming.History
import TrackingPlan.Proofs.Steps

/-!
# What the steps of a module do to the scopes

Every step takes a class name, a method name or a parameter name, or clears the scope of the
parameters; what all of these keep, a whole method keeps after its own name, and a whole module
keeps with the names of its methods. In particular the scopes have the words of the language for
good, and a scope that is cleared is the empty one again.

Key definitions: `Respects`, `IsFrame`, `Scopes.Worded`.
Key theorems: `IsFrame.methodOf`, `ofSource_keepsWords`, `Worded.moduleScope_eq`.
-/

namespace TrackingPlan
namespace Python

open Naming Steps

variable {α β : Type}

/-! ### What a step does to the scopes -/

/-- Every run of the step relates the scopes before it to the scopes after it. -/
def Respects (R : Scopes → Scopes → Prop) (x : Names α) : Prop := ∀ s, R s (x s).2

/-- A relation that one step after another keeps, if every step but the naming of a method does. -/
structure IsFrame (R : Scopes → Scopes → Prop) : Prop where
  refl : ∀ s, R s s
  trans : ∀ {s t u}, R s t → R t u → R s u
  className : ∀ identifier, Respects R (className identifier)
  localName : ∀ identifier, Respects R (localName identifier)
  startMethod : Respects R startMethod

namespace IsFrame

variable {R : Scopes → Scopes → Prop} (hR : IsFrame R)

include hR

theorem pure (a : α) : Respects R (pure a : Names α) := fun s => hR.refl s

theorem bind {x : Names α} {f : α → Names β} (hx : Respects R x) (hf : ∀ a, Respects R (f a)) :
    Respects R (x >>= f) :=
  fun s => hR.trans (hx s) (hf _ _)

theorem mapM {f : α → Names β} (hf : ∀ a, Respects R (f a)) :
    ∀ xs : List α, Respects R (xs.mapM f)
  | [] => fun s => hR.refl s
  | x :: xs => fun s => by
    rw [mapM_cons_apply]
    exact hR.trans (hf x s) (mapM hf xs _)

theorem optionMapM {f : α → Names β} (hf : ∀ a, Respects R (f a)) :
    ∀ x : Option α, Respects R (x.mapM f)
  | none => fun s => hR.refl s
  | some x => fun s => hf x s

theorem typeOf : ∀ type, Respects R (typeOf type)
  | .primitive _ => hR.pure _
  | .named name => hR.className (typeName name)

theorem expressionOf (style : Style) : ∀ e, Respects R (expressionOf style e)
  | .literal _ => hR.pure _
  | .parameter identifier _ _ => hR.bind (hR.localName identifier) fun _ => hR.pure _
  | .schemaVersion => hR.pure _

theorem recordOf (style : Style) (r : EventRecord) : Respects R (Record.of style r) :=
  hR.bind (hR.mapM (fun e => hR.bind (hR.expressionOf style e.value) fun _ => hR.pure _) r.entries)
    fun _ => hR.pure _

theorem parameterOf (p : ParameterDefinition) : Respects R (Parameter.of p) :=
  hR.bind (hR.localName p.identifier) fun _ => hR.bind (hR.typeOf p.type) fun _ => hR.pure _

theorem guardOf (p : ParameterDefinition) : Respects R (Guard.of? p) := by
  unfold Guard.of?
  cases p.defaultName with
  | none => exact hR.pure _
  | some _ => exact hR.bind (hR.localName p.identifier) fun _ => hR.pure _

theorem enumOf (e : Enumeration) : Respects R (EnumClass.of e) :=
  hR.bind (hR.className e.identifier) fun _ => hR.pure _

/-- What a method does after it has its name. -/
theorem methodOf (options : Options) (style : Style) (f : EventFunction) (s : Scopes) :
    R (methodName f.identifier s).2 (Method.of options style f s).2 :=
  hR.bind hR.startMethod (fun _ =>
    hR.bind (hR.mapM hR.parameterOf f.parameters) fun _ =>
    hR.bind (hR.mapM hR.guardOf f.parameters) fun _ =>
    hR.bind (hR.recordOf style f.business) fun _ =>
    hR.bind (hR.optionMapM (hR.recordOf style) f.publish) fun _ => hR.pure _) _

end IsFrame

/-! ### Scopes with the words of the language -/

/-- The scope has the words of the language. -/
def Worded (s : Scope) : Prop := s.keywords = keywords ∧ s.builtins = builtins

/-- All three scopes have the words of the language. -/
structure Scopes.Worded (s : Scopes) : Prop where
  classes : Python.Worded s.classes
  methods : Python.Worded s.methods
  locals : Python.Worded s.locals

theorem Scopes.worded_empty : Scopes.Worded {} := ⟨⟨rfl, rfl⟩, ⟨rfl, rfl⟩, ⟨rfl, rfl⟩⟩

theorem Worded.extends {s t : Scope} (h : Worded s) (hst : s.Extends t) : Worded t :=
  ⟨hst.keywords.trans h.1, hst.builtins.trans h.2⟩

theorem Worded.serve {s : Scope} (h : Worded s) : ∀ r : Scope.Request, Worded (s.serve r).2
  | .sanitize name form => h.extends (Scope.extends_sanitize s name form "_")
  | .reserve _ => h
  | .clear => h

theorem Worded.serveAll (requests : List Scope.Request) : ∀ {s : Scope}, Worded s →
    Worded (s.serveAll requests) := by
  induction requests with
  | nil => exact fun h => h
  | cons r rest ih => exact fun h => ih (h.serve r)

/-- A cleared scope is an empty one. -/
theorem Worded.clear_eq {s : Scope} (h : Worded s) : s.clear = emptyScope := by
  rw [Scope.clear, emptyScope, h.1, h.2]

theorem Worded.moduleScope_eq {s : Scope} (h : Worded s) (taken : List String) :
    moduleScope taken s = moduleScope taken emptyScope := by
  rw [moduleScope, h.clear_eq]
  rfl

theorem worded_reserve (taken : List String) : ∀ {s : Scope}, Worded s →
    Worded (taken.foldl Scope.reserve s) := by
  induction taken with
  | nil => exact fun h => h
  | cons name rest ih => exact fun h => ih h

theorem worded_moduleScope (taken : List String) : Worded (moduleScope taken emptyScope) :=
  worded_reserve taken ⟨rfl, rfl⟩

theorem answers_reserve (taken : List String) : ∀ s : Scope,
    (taken.foldl Scope.reserve s).answers = s.answers := by
  induction taken with
  | nil => exact fun _ => rfl
  | cons name rest ih => exact fun s => ih (s.reserve name)

theorem used_reserve (taken : List String) : ∀ s : Scope,
    (taken.foldl Scope.reserve s).used = taken.reverse ++ s.used := by
  induction taken with
  | nil => exact fun _ => rfl
  | cons name rest ih =>
    intro s
    rw [List.foldl_cons, ih, List.reverse_cons, List.append_assoc]
    rfl

theorem answers_moduleScope (taken : List String) : (moduleScope taken emptyScope).answers = [] :=
  answers_reserve taken _

theorem mem_used_moduleScope {taken : List String} {name : String} :
    name ∈ (moduleScope taken emptyScope).used ↔ name ∈ taken := by
  rw [moduleScope, used_reserve, List.mem_append, List.mem_reverse]
  exact or_iff_left List.not_mem_nil

/-- No word of the language has an underscore in it. -/
theorem Worded.plainWords {s : Scope} (h : Worded s) : s.PlainWords := by
  rw [Scope.PlainWords, h.1, h.2]
  decide

/-- Scopes with the words of the language keep them. -/
def KeepsWords (s t : Scopes) : Prop := s.Worded → t.Worded

theorem keepsWords_isFrame : IsFrame KeepsWords where
  refl _ := id
  trans h h' := h' ∘ h
  className identifier s h :=
    ⟨h.classes.extends (Scope.extends_sanitize s.classes identifier .preserve "_"), h.methods,
      h.locals⟩
  localName identifier s h :=
    ⟨h.classes, h.methods, h.locals.extends (Scope.extends_sanitize s.locals identifier .snake "_")⟩
  startMethod _ h := ⟨h.classes, h.methods, h.locals⟩

theorem methodName_keepsWords (identifier : String) : Respects KeepsWords (methodName identifier) :=
  fun s h => ⟨h.classes,
    h.methods.extends (Scope.extends_sanitize s.methods identifier .snake "_"), h.locals⟩

theorem methodOf_keepsWords (options : Options) (style : Style) (f : EventFunction) :
    Respects KeepsWords (Method.of options style f) :=
  fun s h => keepsWords_isFrame.methodOf options style f s (methodName_keepsWords f.identifier s h)

theorem startModule_keepsWords (taken : List String) : Respects KeepsWords (startModule taken) :=
  fun _ h => ⟨worded_reserve taken h.classes, h.methods, h.locals⟩

/-- A module leaves the words of the scopes alone. -/
theorem ofSource_keepsWords (options : Options) (style : Style) (taken : List String)
    (source : SourceFile) : Respects KeepsWords (Module.ofSource options style taken source) :=
  have hR := keepsWords_isFrame
  hR.bind (startModule_keepsWords taken) fun _ =>
    hR.bind (hR.mapM hR.enumOf source.enums) fun _ =>
    hR.bind (hR.mapM (methodOf_keepsWords options style) source.functions) fun _ => hR.pure _

/-- The scope of the methods stays the same. -/
theorem sameMethods_isFrame : IsFrame fun s t => t.methods = s.methods where
  refl _ := rfl
  trans h h' := h'.trans h
  className _ _ := rfl
  localName _ _ := rfl
  startMethod _ := rfl

end Python
end TrackingPlan
