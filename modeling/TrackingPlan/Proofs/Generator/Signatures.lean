import TrackingPlan.Proofs.Kotlin.Comments
import TrackingPlan.Proofs.Python.Literals
import TrackingPlan.Proofs.Source.Order

/-!
# Signatures in generated code

A signature shows the parameters of its function in order, each with a default exactly when the
parameter has one. So no parameter that a caller has to pass stands behind one that may be left
out: in Kotlin the default is the expression of its provider, in Python it is `None`.

Key definitions: `SignatureItem`, `EventFunction.DeclaredAs`.
Key theorems: `Kotlin.Function.declaredAs_of_print`, `Python.Method.declaredAs_of_print`,
`Event.defaults_last`.
-/

namespace TrackingPlan

open Layout Naming Steps

/-- A parameter in a signature: its name, its type, and what it is when it is left out. -/
structure SignatureItem where
  name : String
  type : String
  default : Option String
  deriving DecidableEq, Repr

/-- The text of a parameter in a signature. -/
def SignatureItem.text (i : SignatureItem) : String :=
  i.name ++ ": " ++ i.type ++ (match i.default with
    | some e => " = " ++ e
    | none => "")

/-- The text declares the function: its head, and the parameters between parentheses. They have the
names, in order, each has a default where the parameter of the function has one, and none without
a default follows one with a default. -/
def EventFunction.DeclaredAs (f : EventFunction) (head : String) (names : List String)
    (text : String) : Prop :=
  ∃ items : List SignatureItem, ∃ rest,
    text = head ++ "(" ++ ", ".intercalate (items.map (·.text)) ++ ")" ++ rest ∧
    items.map (·.name) = names ∧
    items.map (·.default.isSome) = f.parameters.map (·.hasDefault) ∧
    items.Pairwise fun i j => i.default.isSome → j.default.isSome

variable {event : Event} {options : Options} {f : EventFunction} {names : List String}
  {text : String}

/-- Items that have defaults as the parameters do are in the order of the parameters. -/
theorem SignatureItem.pairwise_default {items : List SignatureItem}
    (h : f.parameters.Pairwise fun d e => d.hasDefault → e.hasDefault)
    (hitems : items.map (·.default.isSome) = f.parameters.map (·.hasDefault)) :
    items.Pairwise fun i j => i.default.isSome → j.default.isSome := by
  have hflags : List.Pairwise (fun x y : Bool => x → y) (f.parameters.map (·.hasDefault)) :=
    List.pairwise_map.mpr h
  rw [← hitems] at hflags
  exact List.pairwise_map.mp hflags

/-! ### Kotlin -/

namespace Kotlin

variable {style : Style}

/-- A parameter that can be written is an item of the signature. -/
theorem Parameter.exists_item {p : Parameter} (h : p.print style = .ok text) :
    ∃ item : SignatureItem, (item.name = p.name ∧ item.default.isSome = p.defaultName.isSome) ∧
      item.text = text := by
  unfold Parameter.print at h
  split at h
  · rename_i name hname
    obtain ⟨e, -, h⟩ := bind_eq_ok.mp h
    split at h
    · rename_i shown _
      rw [hname]
      exact ⟨⟨p.name, p.type, some shown⟩, ⟨rfl, rfl⟩, pure_eq_ok.mp h⟩
    · exact nomatch h
  · rename_i hname
    rw [hname]
    exact ⟨⟨p.name, p.type, none⟩, ⟨rfl, rfl⟩, pure_eq_ok.mp h⟩

/-- The text of a function up to its parameters: its comment, the keyword and its name. -/
def Function.head (k : Function) : String :=
  block (commentLines k.description ++ ["public fun " ++ k.name])

theorem exists_functionText_head (dualEventType : String) (k : Function)
    (parameters : List String) (arguments : List (String × String)) :
    ∃ rest, functionText dualEventType k parameters arguments =
      k.head ++ ("(" ++ ", ".intercalate parameters ++ ")") ++ rest := by
  have hclose : "): " = ")" ++ ": " := rfl
  have hline : "public fun " ++ k.name ++ "(" ++ ", ".intercalate parameters ++ "): " ++
      dualEventType ++ " = " ++ dualEventType ++ "(" =
        "public fun " ++ k.name ++ ("(" ++ ", ".intercalate parameters ++ ")") ++
          (": " ++ dualEventType ++ " = " ++ dualEventType ++ "(") := by
    simp only [hclose, String.append_assoc]
  rw [functionText_eq, codeLines, hline, List.cons_append, block_append_part]
  exact ⟨_, rfl⟩

/-- **The signature of a function in Kotlin**: a provider stands for each default. -/
theorem Function.declaredAs_of_print
    (hlast : f.parameters.Pairwise fun d e => d.hasDefault → e.hasDefault)
    (h : (Function.of options style f).print style (.builtin names) = .ok text) :
    f.DeclaredAs (Function.of options style f).head
      (f.parameters.map (escapeIdentifier ·.identifier)) text := by
  obtain ⟨_, _, parameters, dual, arguments, -, -, hparameters, -, -, rfl⟩ := print_eq_ok.mp h
  rw [mapM_eq_ok, Function.of, List.forall₂_map_left_iff] at hparameters
  obtain ⟨items, hitems, rfl⟩ := Pairing.exists_lift hparameters Parameter.exists_item
  obtain ⟨rest, hrest⟩ := exists_functionText_head dual (Function.of options style f)
    (items.map (·.text)) arguments
  have hnames : items.map (·.name) = f.parameters.map (escapeIdentifier ·.identifier) :=
    Pairing.eq_map (List.forall₂_map_right_iff.mpr (hitems.imp fun _ _ hp => hp.1.symm)) id
  have hdefaults : items.map (·.default.isSome) = f.parameters.map (·.hasDefault) :=
    Pairing.eq_map (List.forall₂_map_right_iff.mpr (hitems.imp fun _ _ hp => hp.2.symm)) id
  refine ⟨items, rest, ?_, hnames, hdefaults, SignatureItem.pairwise_default hlast hdefaults⟩
  rw [hrest]
  simp only [String.append_assoc]

end Kotlin

/-! ### Python -/

namespace Python

variable {style : Style}

/-- The parameter as an item of the signature: an optional one is `None` when it is left out. -/
def Parameter.item (p : Parameter) : SignatureItem where
  name := p.name
  type := if p.isOptional then optionalType p.type else p.type
  default := if p.isOptional then some "None" else none

theorem parameterText_eq (p : Parameter) : parameterText p = p.item.text := by
  unfold parameterText SignatureItem.text Parameter.item
  split
  · simp only [String.append_assoc]
    rfl
  · rw [String.append_empty]

/-- The parameters of a method are optional where those of its function have a default. -/
theorem parameters_isOptional : ∀ (ps : List ParameterDefinition) (s : Scopes),
    (ps.mapM Parameter.of s).1.map (·.isOptional) = ps.map (·.hasDefault)
  | [], _ => rfl
  | p :: ps, s => by
    rw [mapM_cons_apply, List.map_cons, List.map_cons, parameters_isOptional ps]
    rfl

/-- The text of a method up to its parameters: the decorator, the keyword and its name. -/
def Method.head (m : Method) : String := block ["@staticmethod", "def " ++ m.name]

theorem exists_methodText_head (dualEventType : String) (m : Method)
    (defaults arguments : List (String × String)) :
    ∃ rest, methodText dualEventType m defaults arguments =
      m.head ++ ("(" ++ ", ".intercalate (m.parameters.map (·.item.text)) ++ ")") ++ rest := by
  have hclose : ") -> " = ")" ++ " -> " := rfl
  have hitems : m.parameters.map parameterText = m.parameters.map (·.item.text) :=
    List.map_congr_left fun p _ => parameterText_eq p
  have hline : "def " ++ m.name ++ "(" ++ ", ".intercalate (m.parameters.map parameterText) ++
      ") -> " ++ dualEventType ++ ":" =
        "def " ++ m.name ++ ("(" ++ ", ".intercalate (m.parameters.map (·.item.text)) ++ ")") ++
          (" -> " ++ dualEventType ++ ":") := by
    simp only [hclose, hitems, String.append_assoc]
  rw [methodText, hline]
  simp only [List.cons_append, List.nil_append]
  exact ⟨_, block_append_part ["@staticmethod"] _ _ _ _⟩

/-- **The signature of a method in Python**: what may be left out is `None`. The names are handed
out in the order of the parameters, in a scope of their own. -/
theorem Method.declaredAs_of_print (options : Options) (f : EventFunction) (s : Scopes)
    (hlast : f.parameters.Pairwise fun d e => d.hasDefault → e.hasDefault)
    (h : (Method.of options style f s).1.print style (.builtin names) = .ok text) :
    f.DeclaredAs (Method.of options style f s).1.head
      (Scope.sanitizeAll .snake s.locals.clear (f.parameters.map (·.identifier))).1 text := by
  let m : Method := (Method.of options style f s).1
  let start : Scopes := (startMethod (methodName f.identifier s).2).2
  have hparameters : m.parameters = (f.parameters.mapM Parameter.of start).1 := rfl
  have hnames : (m.parameters.map (·.item)).map (·.name) =
      (Scope.sanitizeAll .snake s.locals.clear (f.parameters.map (·.identifier))).1 := by
    rw [List.map_map, hparameters]
    exact (Prod.mk.inj (parameters_names f.parameters start)).1
  have hdefaults : (m.parameters.map (·.item)).map (·.default.isSome) =
      f.parameters.map (·.hasDefault) := by
    rw [List.map_map, ← parameters_isOptional f.parameters start, ← hparameters]
    refine List.map_congr_left fun p _ => ?_
    cases hp : p.isOptional <;> simp [Parameter.item, hp]
  obtain ⟨_, _, _, defaults, dual, arguments, -, -, -, -, -, -, rfl⟩ := Method.print_eq_ok.mp h
  obtain ⟨rest, hrest⟩ := exists_methodText_head dual m defaults arguments
  refine ⟨m.parameters.map (·.item), rest, ?_, hnames, hdefaults,
    SignatureItem.pairwise_default hlast hdefaults⟩
  rw [hrest, List.map_map]
  simp only [String.append_assoc, Function.comp_def]
  rfl

end Python

/-- **Parameters with a default come last**, in the function of an event and in every signature.
The function has one definition for each parameter of the event; those with a defaulted name, and
no others, have a default and come after the rest, and both groups are in the order of the event.
The text of the function in Kotlin and of its method in Python has no parameter without a default
after one with a default. -/
theorem Event.defaults_last (h : event.toFunction options = .ok f) :
    (∃ conventions sorted, options.conventions = .ok conventions ∧
      DefaultsLast conventions.defaultedParameters event.parameters sorted ∧
      List.Forall₂ (ParameterDefinition.IsOf conventions.defaultedParameters) sorted
        f.parameters) ∧
    (∀ {style text},
      (Kotlin.Function.of options style f).print style (.builtin Kotlin.layoutNames) = .ok text →
        f.DeclaredAs (Kotlin.Function.of options style f).head
          (f.parameters.map (Kotlin.escapeIdentifier ·.identifier)) text) ∧
    ∀ {style scopes text}, (Python.Method.of options style f scopes).1.print style
        (.builtin Python.layoutNames) = .ok text →
      f.DeclaredAs (Python.Method.of options style f scopes).1.head
        (Scope.sanitizeAll .snake scopes.locals.clear (f.parameters.map (·.identifier))).1 text :=
  have hlast := pairwise_hasDefault h
  ⟨exists_defaultsLast h, fun hprint => Kotlin.Function.declaredAs_of_print hlast hprint,
    fun hprint => Python.Method.declaredAs_of_print options f _ hlast hprint⟩

/-- An event that declares its parameters with and without a default in turn. -/
def Event.interleaved : Event where
  id := 1
  name := "Open"
  description := "Shown (count: Int = 0) once."
  parameters := [
    { name := "screen_name", type := .primitive .string },
    { name := "count", type := .primitive .integer },
    { name := "modal_name", type := .primitive .string },
    { name := "class", type := .named "Level" }]

theorem Event.defaults_last_interleaved :
    ∃ f kotlin python, interleaved.toFunction {} = .ok f ∧
      f.parameters.map (·.name) = ["count", "class", "screen_name", "modal_name"] ∧
      (Kotlin.Function.of {} {} f).print {} (.builtin Kotlin.layoutNames) = .ok kotlin ∧
      f.DeclaredAs "/**\n * Shown (count: Int = 0) once.\n */\npublic fun open"
        ["count", "`class`", "screenName", "modalName"] kotlin ∧
      (Python.Method.of {} {} f {}).1.print {} (.builtin Python.layoutNames) = .ok python ∧
      f.DeclaredAs "@staticmethod\ndef open" ["count", "class_", "screen_name", "modal_name"]
        python := by
  have hcomputed : (interleaved.toFunction {}).toOption.any fun f =>
      f.parameters.map (·.name) = ["count", "class", "screen_name", "modal_name"] ∧
      (Kotlin.Function.of {} {} f).head =
        "/**\n * Shown (count: Int = 0) once.\n */\npublic fun open" ∧
      f.parameters.map (Kotlin.escapeIdentifier ·.identifier) =
        ["count", "`class`", "screenName", "modalName"] ∧
      ((Kotlin.Function.of {} {} f).print {} (.builtin Kotlin.layoutNames)).isOk ∧
      (Python.Method.of {} {} f {}).1.head = "@staticmethod\ndef open" ∧
      (Scope.sanitizeAll .snake Python.emptyScope.clear (f.parameters.map (·.identifier))).1 =
        ["count", "class_", "screen_name", "modal_name"] ∧
      ((Python.Method.of {} {} f {}).1.print {} (.builtin Python.layoutNames)).isOk := by
    decide +kernel
  obtain ⟨f, hf⟩ : ∃ f, interleaved.toFunction {} = .ok f := exists_of_isOk (by decide +kernel)
  rw [hf] at hcomputed
  obtain ⟨hnames, hhead, hshown, hkotlin, hhead', hshown', hpython⟩ := of_decide_eq_true hcomputed
  obtain ⟨kotlin, hkotlin⟩ := exists_of_isOk hkotlin
  obtain ⟨python, hpython⟩ := exists_of_isOk hpython
  obtain ⟨-, hdeclared, hdeclared'⟩ := defaults_last hf
  refine ⟨f, kotlin, python, hf, hnames, hkotlin, ?_, hpython, ?_⟩
  · rw [← hhead, ← hshown]
    exact hdeclared hkotlin
  · rw [← hhead', ← hshown']
    exact hdeclared' hpython

end TrackingPlan
