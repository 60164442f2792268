import TrackingPlan.Proofs.Generator.Fresh
import TrackingPlan.Proofs.Python.Literals
import TrackingPlan.Proofs.Text.Identifier

/-!
# The members of enumeration classes

A member of an enumeration class is named after a string of its type: in upper case and without
spaces, but with everything else that the string has in it. No such name is a keyword, since every
keyword has a small letter of ASCII; it is an identifier exactly when the string spells one.

Key definitions: `IsName`, `EnumClass.Lists`, `Schema.SpellsNames`.
Key theorems: `isName_constantName_iff`, `Module.enums_list`, `Generator.memberNames_iff`.
-/

namespace TrackingPlan
namespace Python

open Naming Text Steps

/-- A name that code can give to something: an identifier, but no keyword. -/
structure IsName (name : String) : Prop where
  isIdentifier : isIdentifier name.toList = true
  notKeyword : name ∉ keywords

instance (name : String) : Decidable (IsName name) :=
  decidable_of_iff (Text.isIdentifier name.toList = true ∧ name ∉ keywords)
    ⟨fun h => ⟨h.1, h.2⟩, fun h => ⟨h.1, h.2⟩⟩

/-! ### The names of constants -/

theorem any_isLower_of_keyword : ∀ word ∈ keywords, word.toList.any Char.isLower = true := by
  decide +kernel

/-- **No constant has the name of a keyword.** -/
theorem constantName_not_mem_keywords (s : String) : constantName s ∉ keywords := by
  intro hword
  obtain ⟨c, hc, hlower⟩ := List.any_eq_true.mp (any_isLower_of_keyword _ hword)
  rw [constantName, String.toList_ofList] at hc
  rw [isLower_of_mem_upper hc] at hlower
  exact nomatch hlower

/-- **The name of a constant can stand in code exactly when its string spells an identifier**, the
spaces left out. -/
theorem isName_constantName_iff (s : String) :
    IsName (constantName s) ↔ spellsIdentifier (s.toList.filter (· ≠ ' ')) = true := by
  have hupper : Text.isIdentifier (constantName s).toList =
      spellsIdentifier (s.toList.filter (· ≠ ' ')) := by
    rw [constantName, String.toList_ofList, isIdentifier_upper]
  exact ⟨fun h => hupper ▸ h.isIdentifier, fun h => ⟨hupper ▸ h, constantName_not_mem_keywords s⟩⟩

/-! ### Classes -/

/-- The class lists the strings of a type: it has a member for each of them. -/
def EnumClass.Lists (t : SchemaType) (e : EnumClass) : Prop :=
  ∃ strings, t.stringEnum = some strings ∧
    e.members = strings.map fun s => (constantName s, stringLiteral s)

theorem enums_members : ∀ (es : List Enumeration) (s : Scopes),
    List.Forall₂ (fun (e : Enumeration) (c : EnumClass) =>
      c.members = e.constants.map fun k => (k.identifier, stringLiteral k.value)) es
        (es.mapM EnumClass.of s).1
  | [], _ => .nil
  | e :: es, s => by
    rw [mapM_cons_apply]
    exact .cons rfl (enums_members es _)

/-- The classes of a module list the strings of the types of the schema, in order. -/
theorem Module.enums_list {schema : Schema} {options : Options} {source : SourceFile}
    (hsource : schema.toSource options = .ok source) (style : Style) (taken : List String)
    (s : Scopes) : List.Forall₂ EnumClass.Lists schema.enumTypes
      (Module.ofSource options style taken source s).1.enums := by
  refine Pairing.trans (Schema.enums_areOf hsource) (enums_members source.enums _) ?_
  intro t e c hof hmembers
  obtain ⟨strings, hstrings, hconstants⟩ := hof.constants
  refine ⟨strings, hstrings, ?_⟩
  rw [hmembers, hconstants, List.map_map]
  rfl

end Python

open Naming Python Text

/-- Every string of a type spells an identifier, the spaces left out. -/
def Schema.SpellsNames (s : Schema) : Prop :=
  ∀ t ∈ s.types, ∀ strings ∈ t.stringEnum, ∀ string ∈ strings,
    spellsIdentifier (string.toList.filter (· ≠ ' ')) = true

instance (s : Schema) : Decidable s.SpellsNames :=
  inferInstanceAs (Decidable (∀ t ∈ s.types, ∀ strings ∈ t.stringEnum, ∀ string ∈ strings,
    spellsIdentifier (string.toList.filter (· ≠ ' ')) = true))

/-- Classes that list the strings of a schema have names for their members exactly when the strings
spell them. -/
theorem Schema.spellsNames_iff {schema : Schema} {classes : List EnumClass}
    (h : List.Forall₂ EnumClass.Lists schema.enumTypes classes) :
    (∀ c ∈ classes, ∀ member ∈ c.members, IsName member.1) ↔ schema.SpellsNames := by
  constructor
  · intro hnames t ht strings hstrings string hstring
    have henum : t ∈ schema.enumTypes :=
      List.mem_filter.mpr ⟨ht, Option.isSome_of_mem hstrings⟩
    obtain ⟨c, hc, strings', hstrings', hmembers⟩ := Pairing.exists_right h henum
    obtain rfl : strings = strings' := Option.some.inj (hstrings.symm.trans hstrings')
    have hmember : (constantName string, stringLiteral string) ∈ c.members := by
      rw [hmembers]
      exact List.mem_map_of_mem hstring
    exact (isName_constantName_iff string).mp (hnames c hc _ hmember)
  · intro hspells c hc member hmember
    obtain ⟨t, ht, strings, hstrings, hmembers⟩ := Pairing.exists_left h hc
    rw [hmembers] at hmember
    obtain ⟨string, hstring, rfl⟩ := List.mem_map.mp hmember
    exact (isName_constantName_iff string).mpr
      (hspells t (List.mem_of_mem_filter ht) strings hstrings string hstring)

namespace Generator

variable {settings : Settings} {g h : Generator} {schema : Schema} {output : Output}

/-- The text of a module, when no template was stored, is its layout, with the text of each class in
it. -/
theorem exists_text_of_print {style : Style} {m : Module} {code : String}
    (hcreate : create .python settings = .ok g) (htemplates : h.templates = g.templates)
    (hprint : m.print style h.templates = .ok code) :
    ∃ imports methods, m.text? style imports methods (m.enums.map enumText) = some code := by
  obtain ⟨_, _, -, -, rfl⟩ := create_python_eq_ok.mp hcreate
  rw [htemplates] at hprint
  obtain ⟨methods, imports, runtime, object, importNames, version, -, -, hruntime, hobject, hnames,
    hversion, hcode⟩ := Module.print_eq_ok.mp hprint
  refine ⟨imports, methods, ?_⟩
  rw [Module.text?, hruntime, hobject, hnames, hversion, ← hcode]
  rfl

/-- The code of a run is the tidied text of a module, whose classes list the strings of the types of
the schema in order. -/
theorem Becomes.exists_text (hcreate : create .python settings = .ok g)
    (hbecomes : g.Becomes h) (htemplates : h.templates = g.templates)
    (hrun : (h.run schema).1 = .success output) :
    ∃ source style m imports methods code,
      schema.toSource settings.options = .ok source ∧ h.module? source = some (style, m) ∧
      m.text? style imports methods (m.enums.map enumText) = some code ∧
      output.code = Layout.tidy code ∧
      List.Forall₂ EnumClass.Lists schema.enumTypes m.enums := by
  obtain ⟨warnings, code, -, hcode, houtput⟩ := run_eq_success.mp hrun
  obtain ⟨source, style, taken, scopes, m, hsource, -, hm, hmodule, hprint⟩ :=
    hbecomes.exists_module hcreate hcode
  obtain ⟨imports, methods, htext⟩ := exists_text_of_print hcreate htemplates hprint
  exact ⟨source, style, m, imports, methods, code, hsource, hmodule, htext, by rw [houtput],
    hm ▸ Module.enums_list hsource style taken scopes⟩

/-- **The members of the classes in a module have names exactly when the strings of the schema
spell them.** The classes list the strings of the types in order, and are written as they stand. -/
theorem memberNames_iff (hcreate : create .python settings = .ok g) (hbecomes : g.Becomes h)
    (htemplates : h.templates = g.templates) (hrun : (h.run schema).1 = .success output) :
    ∃ source style m imports methods code,
      schema.toSource settings.options = .ok source ∧ h.module? source = some (style, m) ∧
      m.text? style imports methods (m.enums.map enumText) = some code ∧
      output.code = Layout.tidy code ∧
      List.Forall₂ EnumClass.Lists schema.enumTypes m.enums ∧
      ((∀ c ∈ m.enums, ∀ member ∈ c.members, IsName member.1) ↔ schema.SpellsNames) := by
  obtain ⟨source, style, m, imports, methods, code, hsource, hmodule, htext, hcode, hlist⟩ :=
    hbecomes.exists_text hcreate htemplates hrun
  exact ⟨source, style, m, imports, methods, code, hsource, hmodule, htext, hcode, hlist,
    Schema.spellsNames_iff hlist⟩

end Generator

/-- A schema with strings that have spaces in them, and a letter whose upper case form has two
characters. -/
def Schema.sizes : Schema where
  projectId := "shop"
  versionNumber := 3
  types := [{ name := "size", stringEnum := some ["volle größe", "_2 xl"] }]

/-- All of its strings spell names. -/
theorem Generator.memberNames_iff_sizes :
    ∃ g output source style m, create .python Settings.default = .ok g ∧
      (g.run Schema.sizes).1 = .success output ∧ output.warnings = [] ∧
      g.module? source = some (style, m) ∧
      ∀ c ∈ m.enums, ∀ member ∈ c.members, IsName member.1 := by
  obtain ⟨g, output, hg, hrun, hwarnings⟩ : ∃ g output, create .python Settings.default = .ok g ∧
      (g.run Schema.sizes).1 = .success output ∧ output.warnings = [] :=
    exists_output (by decide +kernel)
  have hspells : Schema.sizes.SpellsNames := by decide +kernel
  obtain ⟨source, style, m, imports, methods, code, -, hm, -, -, -, hnames⟩ :=
    memberNames_iff hg .refl rfl hrun
  exact ⟨g, output, source, style, m, hg, hrun, hwarnings, hm, hnames.mpr hspells⟩

/-- A schema with a string that is no identifier. -/
def Schema.dashed : Schema where
  projectId := "shop"
  versionNumber := 3
  types := [{ name := "kind", stringEnum := some ["a-b"] }]

/-- Code is written, and no warning is given, although a member has no name. -/
theorem Generator.memberName_dashed :
    ∃ g output source style m imports methods code c, create .python Settings.default = .ok g ∧
      (g.run Schema.dashed).1 = .success output ∧ output.warnings = [] ∧
      g.module? source = some (style, m) ∧
      m.text? style imports methods (m.enums.map enumText) = some code ∧
      output.code = Layout.tidy code ∧
      m.enums = [c] ∧ c.members = [("A-B", stringLiteral "a-b")] ∧ ¬ IsName "A-B" := by
  obtain ⟨g, output, hg, hrun, hwarnings⟩ : ∃ g output, create .python Settings.default = .ok g ∧
      (g.run Schema.dashed).1 = .success output ∧ output.warnings = [] :=
    exists_output (by decide +kernel)
  obtain ⟨source, style, m, imports, methods, code, -, hm, htext, hcode, hlist⟩ :=
    Becomes.refl.exists_text hg rfl hrun
  have htypes : Schema.dashed.enumTypes = Schema.dashed.types := rfl
  rw [htypes, Schema.dashed, List.forall₂_cons_left_iff] at hlist
  obtain ⟨c, rest, ⟨strings, hstrings, hmembers⟩, hrest, hclasses⟩ := hlist
  obtain rfl := Option.some.inj hstrings
  obtain rfl := List.forall₂_nil_left_iff.mp hrest
  have hname : constantName "a-b" = "A-B" := by decide +kernel
  refine ⟨g, output, source, style, m, imports, methods, code, c, hg, hrun, hwarnings, hm, htext,
    hcode, hclasses, ?_, by decide +kernel⟩
  rw [hmembers, List.map_singleton, hname]

end TrackingPlan
