import TrackingPlan.Proofs.Python.Outline

/-!
# Two runs of one step

Two runs of a step that start from related scopes are compared: they agree when their results are
related and the scopes after them are related again. Sequences of steps that agree agree too.

Two relations matter. Scopes of the same module share the names of classes and methods, and a
method clears what else they hold; so a module is the same whatever scopes it starts with. Scopes
with the same parameters share the names in one method only; so a method shows its parameters
under the names that it would also have alone in its file.

Key definitions: `Agree`, `SameModule`, `SameParameters`, `Method.SameLocals`.
Key theorems: `Agree.bind`, `Agree.mapM`, `Module.ofSource_eq`, `Module.methods_sameLocals`.
-/

namespace TrackingPlan
namespace Python

open Naming Steps

variable {α β γ δ : Type}

/-- Two steps agree: from related scopes they give related results and related scopes. -/
def Agree (R : Scopes → Scopes → Prop) (Q : α → β → Prop) (x : Names α) (y : Names β) : Prop :=
  ∀ s t, R s t → Q (x s).1 (y t).1 ∧ R (x s).2 (y t).2

namespace Agree

variable {R : Scopes → Scopes → Prop} {Q : α → β → Prop} {P : γ → δ → Prop}

theorem pure {a : α} {b : β} (h : Q a b) : Agree R Q (pure a) (pure b) :=
  fun _ _ hst => ⟨h, hst⟩

theorem bind {x : Names α} {y : Names β} {f : α → Names γ} {g : β → Names δ}
    (hx : Agree R Q x y) (hf : ∀ {a b}, Q a b → Agree R P (f a) (g b)) :
    Agree R P (x >>= f) (y >>= g) := by
  intro s t hst
  obtain ⟨hresult, hscopes⟩ := hx s t hst
  exact hf hresult _ _ hscopes

theorem mapM {f : γ → Names α} {g : γ → Names β} (hf : ∀ c, Agree R Q (f c) (g c)) :
    ∀ cs : List γ, Agree R (List.Forall₂ Q) (cs.mapM f) (cs.mapM g)
  | [] => fun _ _ hst => ⟨.nil, hst⟩
  | c :: cs => by
    intro s t hst
    obtain ⟨hfirst, hscopes⟩ := hf c s t hst
    obtain ⟨hrest, hlast⟩ := mapM hf cs _ _ hscopes
    rw [mapM_cons_apply, mapM_cons_apply]
    exact ⟨.cons hfirst hrest, hlast⟩

theorem mapM_eq {f : γ → Names α} (hf : ∀ c, Agree R Eq (f c) (f c)) (cs : List γ) :
    Agree R Eq (cs.mapM f) (cs.mapM f) := by
  intro s t hst
  obtain ⟨hresults, hscopes⟩ := mapM hf cs s t hst
  exact ⟨List.forall₂_eq_eq_eq ▸ hresults, hscopes⟩

theorem optionMapM_eq {f : γ → Names α} (hf : ∀ c, Agree R Eq (f c) (f c)) :
    ∀ c : Option γ, Agree R Eq (c.mapM f) (c.mapM f)
  | none => fun _ _ hst => ⟨rfl, hst⟩
  | some c => (hf c).bind fun h => pure (congrArg some h)

end Agree

/-! ### The same module -/

/-- Scopes that name the classes and the methods of a module in the same way. -/
structure SameModule (s t : Scopes) : Prop where
  left : s.Worded
  right : t.Worded
  classes : s.classes = t.classes
  methods : s.methods = t.methods

variable {s t : Scopes} {options : Options} {style : Style}

/-- A module starts with the same scopes of classes and methods, whatever was in them. -/
theorem SameModule.startModule (hs : s.Worded) (ht : t.Worded) (taken : List String) :
    SameModule (startModule taken s).2 (startModule taken t).2 where
  left := startModule_keepsWords taken s hs
  right := startModule_keepsWords taken t ht
  classes := (hs.classes.moduleScope_eq taken).trans (ht.classes.moduleScope_eq taken).symm
  methods := hs.methods.clear_eq.trans ht.methods.clear_eq.symm

theorem agree_className (identifier : String) :
    Agree SameModule Eq (className identifier) (className identifier) := by
  intro s t h
  have hname : (className identifier s).1 = (className identifier t).1 := by
    simp only [className, h.classes]
  have hclasses : (className identifier s).2.classes = (className identifier t).2.classes := by
    simp only [className, h.classes]
  exact ⟨hname, keepsWords_isFrame.className identifier s h.left,
    keepsWords_isFrame.className identifier t h.right, hclasses, h.methods⟩

theorem agree_enum (e : Enumeration) : Agree SameModule Eq (EnumClass.of e) (EnumClass.of e) :=
  (agree_className e.identifier).bind fun h => h ▸ Agree.pure rfl

/-- A method that has its name finds the same scopes: those of the parameters are empty. -/
theorem SameModule.startMethod (h : SameModule s t) (identifier : String) :
    (methodName identifier s).1 = (methodName identifier t).1 ∧
      (startMethod (methodName identifier s).2).2 =
        (startMethod (methodName identifier t).2).2 := by
  have hlocals : s.locals.clear = t.locals.clear :=
    h.left.locals.clear_eq.trans h.right.locals.clear_eq.symm
  simp only [methodName, Python.startMethod, h.classes, h.methods, hlocals, and_self]

theorem agree_method (options : Options) (style : Style) (f : EventFunction) :
    Agree SameModule Eq (Method.of options style f) (Method.of options style f) := by
  intro s t h
  obtain ⟨hname, hscopes⟩ := h.startMethod f.identifier
  have hsame : Method.of options style f s = Method.of options style f t := by
    rw [Method.of, bind_apply, bind_apply (x := startMethod), hname, hscopes]
    rfl
  have hafter : (Method.of options style f s).2 = (Method.of options style f t).2 :=
    congrArg Prod.snd hsame
  exact ⟨congrArg Prod.fst hsame, methodOf_keepsWords options style f s h.left,
    methodOf_keepsWords options style f t h.right, congrArg Scopes.classes hafter,
    congrArg Scopes.methods hafter⟩

/-- **A module is the same whatever scopes it starts with.** -/
theorem Module.ofSource_eq (hs : s.Worded) (ht : t.Worded) (taken : List String)
    (source : SourceFile) : (Module.ofSource options style taken source s).1 =
      (Module.ofSource options style taken source t).1 := by
  have hstart := SameModule.startModule hs ht taken
  obtain ⟨henums, hscopes⟩ := Agree.mapM_eq agree_enum source.enums _ _ hstart
  obtain ⟨hmethods, -⟩ := Agree.mapM_eq (agree_method options style) source.functions _ _ hscopes
  simp only [Module.ofSource, bind_apply, henums, hmethods]
  rfl

/-! ### The same parameters -/

/-- Scopes that name the parameters of a method in the same way. -/
def SameParameters (s t : Scopes) : Prop := s.locals = t.locals

/-- Two methods show the parameters under the same names: in the signature, in the guards and in
the values of the records. -/
structure Method.SameLocals (m m' : Method) : Prop where
  names : m.parameters.map (·.name) = m'.parameters.map (·.name)
  guards : m.guards = m'.guards
  business : m.business = m'.business
  publish : m.publish = m'.publish

theorem agree_localName (identifier : String) :
    Agree SameParameters Eq (localName identifier) (localName identifier) := by
  intro s t h
  have hlocals : s.locals = t.locals := h
  simp only [localName, SameParameters, hlocals, and_self]

/-- A type has a name of its own in each module, but takes none of a parameter. -/
theorem agree_typeOf (type : ParameterType) :
    Agree SameParameters (fun _ _ => True) (typeOf type) (typeOf type) := by
  cases type with
  | primitive p => exact Agree.pure trivial
  | named name => exact fun _ _ h => ⟨trivial, h⟩

theorem agree_parameter (p : ParameterDefinition) :
    Agree SameParameters (fun q q' => q.name = q'.name) (Parameter.of p) (Parameter.of p) :=
  (agree_localName p.identifier).bind fun hname =>
    (agree_typeOf p.type).bind fun _ => Agree.pure hname

theorem agree_guard (p : ParameterDefinition) :
    Agree SameParameters Eq (Guard.of? p) (Guard.of? p) := by
  unfold Guard.of?
  cases p.defaultName with
  | none => exact Agree.pure rfl
  | some defaultName => exact (agree_localName p.identifier).bind fun h => h ▸ Agree.pure rfl

theorem agree_expression (e : Expression) :
    Agree SameParameters Eq (expressionOf style e) (expressionOf style e) := by
  cases e with
  | literal text => exact Agree.pure rfl
  | schemaVersion => exact Agree.pure rfl
  | parameter identifier type conversion =>
    exact (agree_localName identifier).bind fun h => h ▸ Agree.pure rfl

theorem agree_record (style : Style) (r : EventRecord) :
    Agree SameParameters Eq (Record.of style r) (Record.of style r) := by
  have hentry (e : Entry) : Agree SameParameters Eq
      (do return (keyLiteral? e.key, ← expressionOf style e.value) :
        Names (Option String × Option String))
      (do return (keyLiteral? e.key, ← expressionOf style e.value)) :=
    (agree_expression e.value).bind fun h => h ▸ Agree.pure rfl
  exact (Agree.mapM_eq hentry r.entries).bind fun h => h ▸ Agree.pure rfl

/-- **A method shows the parameters under the same names in every module.** -/
theorem method_sameLocals (hs : s.Worded) (ht : t.Worded) (f : EventFunction) :
    (Method.of options style f s).1.SameLocals (Method.of options style f t).1 := by
  have hstart : SameParameters (startMethod (methodName f.identifier s).2).2
      (startMethod (methodName f.identifier t).2).2 :=
    hs.locals.clear_eq.trans ht.locals.clear_eq.symm
  obtain ⟨hparameters, hsigned⟩ := Agree.mapM agree_parameter f.parameters _ _ hstart
  obtain ⟨hguards, hguarded⟩ := Agree.mapM_eq agree_guard f.parameters _ _ hsigned
  obtain ⟨hbusiness, hwritten⟩ := agree_record style f.business _ _ hguarded
  obtain ⟨hpublish, -⟩ :=
    Agree.optionMapM_eq (agree_record style) f.publish _ _ hwritten
  refine ⟨?_, congrArg (List.filterMap id) hguards, hbusiness, hpublish⟩
  have hnames := List.forall₂_map_left_iff.mpr (List.forall₂_map_right_iff.mpr hparameters)
  exact List.forall₂_eq_eq_eq ▸ hnames

theorem methods_sameLocals (options : Options) (style : Style) (ht : t.Worded) :
    ∀ {s : Scopes} (fs : List EventFunction), s.Worded →
    List.Forall₂ (fun f (m : Method) => m.SameLocals (Method.of options style f t).1) fs
      (fs.mapM (Method.of options style) s).1
  | _, [], _ => .nil
  | s, f :: fs, hs => by
    rw [mapM_cons_apply]
    exact .cons (method_sameLocals hs ht f)
      (methods_sameLocals options style ht fs (methodOf_keepsWords options style f s hs))

end Python

/-- The source file with one of its functions only. -/
def SourceFile.only (source : SourceFile) (f : EventFunction) : SourceFile :=
  { source with functions := [f] }

/-- **Every method of a module shows its parameters under the names that it would also have alone
in its file.** -/
theorem Python.Module.methods_sameLocals {s t : Scopes} (options : Options) (style : Style)
    (hs : s.Worded) (ht : t.Worded) (taken : List String) (source : SourceFile) :
    List.Forall₂ (fun f (m : Method) => ∃ alone,
        (Module.ofSource options style taken (source.only f) t).1.methods = [alone] ∧
          m.SameLocals alone)
      source.functions (Module.ofSource options style taken source s).1.methods := by
  have henums {u : Scopes} (hu : u.Worded) :
      (source.enums.mapM EnumClass.of (startModule taken u).2).2.Worded :=
    keepsWords_isFrame.mapM keepsWords_isFrame.enumOf source.enums _
      (startModule_keepsWords taken u hu)
  have hall := Python.methods_sameLocals options style (henums ht)
    source.functions (henums hs)
  exact Pairing.mono_of_mem hall fun _ h => ⟨_, rfl, h⟩

end TrackingPlan
