import TrackingPlan.Proofs.Generator.Fresh
import TrackingPlan.Proofs.Kotlin.Comments
import TrackingPlan.Proofs.Python.Docstrings

/-!
# Descriptions in generated code

A description stands in code as text that is no code: in Kotlin in a comment, in Python in a
docstring. Whatever it holds, it does not end the comment or the docstring, neither where it is
written nor in the code that is indented and tidied, and in Kotlin it does not begin another
comment.

Key theorems: `Generator.comments_haveNoMarks`, `Generator.docstring_endsLast`.
-/

namespace TrackingPlan

open Layout Steps

namespace Generator

variable {settings : Settings} {g h : Generator} {schema : Schema} {event : Event} {code : String}

/-! ### Kotlin -/

/-- Code for a schema in Kotlin is the text of a file. -/
theorem Becomes.exists_file (hcreate : create .kotlin settings = .ok g) (hbecomes : g.Becomes h)
    (hcode : (h.generate schema).1 = .ok code) :
    ∃ source style, schema.toSource settings.options = .ok source ∧
      (Kotlin.File.ofSource settings.options style source).print style h.templates = .ok code := by
  obtain ⟨source, hsource, hrender⟩ := generate_eq_ok.mp hcode
  obtain ⟨hsettings, style, hemitter⟩ := hbecomes.follows.of_create_kotlin hcreate
  have hoptions : h.options = settings.options := congrArg Settings.options hsettings
  rw [render, hemitter] at hrender
  rw [hoptions] at hsource hrender
  exact ⟨source, style, hsource, hrender⟩

/-- A function of the source of a schema has the description of its event. -/
theorem exists_function {options : Options} {source : SourceFile}
    (hsource : schema.toSource options = .ok source) (hevent : event ∈ schema.events) :
    ∃ f ∈ source.functions, event.toFunction options = .ok f ∧
      f.description = event.description := by
  obtain ⟨functions, enums, hfunctions, -, -, rfl, -⟩ := Schema.toSource_eq_ok.mp hsource
  obtain ⟨f, hf, hfunction⟩ := Pairing.exists_right hfunctions hevent
  refine ⟨f, hf, hfunction, ?_⟩
  obtain ⟨_, _, _, _, _, -, -, -, -, -, -, -, rfl⟩ := Event.toFunction_eq_ok.mp hfunction
  rfl

/-- **No description opens or closes a comment in Kotlin.** The text of a function has a comment
exactly when comments are asked for and its description is not blank. Nothing in the comment is a
mark, in the text as it is written, indented, and tidied. This is how the functions of all events
stand in the code for a schema, when no template was stored. -/
theorem comments_haveNoMarks :
    (∀ {options style f names text},
      (Kotlin.Function.of options style f).print style (.builtin names) = .ok text →
        Kotlin.IsDescribed options f.description 0 text ∧
        Kotlin.IsDescribed options f.description 4 (indent 4 text) ∧
        Kotlin.IsDescribed options f.description 4 (tidy (indent 4 text))) ∧
    ∀ {settings g h schema code}, create .kotlin settings = .ok g → g.Becomes h →
      h.templates = g.templates → (h.generate schema).1 = .ok code → ∀ event ∈ schema.events,
        ∃ style f text, event.toFunction settings.options = .ok f ∧
          f.description = event.description ∧
          (Kotlin.Function.of settings.options style f).print style
            (.builtin Kotlin.layoutNames) = .ok text ∧
          Stands (indent 4 text) code ∧ Stands (tidy (indent 4 text)) (tidy code) := by
  constructor
  · intro options style f names text hprint
    have hdescribed := Kotlin.Function.isDescribed_of_print hprint
    exact ⟨hdescribed, hdescribed.indent 4, (hdescribed.indent 4).tidy⟩
  · intro settings g h schema code hcreate hbecomes htemplates hcode event hevent
    obtain ⟨source, style, hsource, hprint⟩ := hbecomes.exists_file hcreate hcode
    obtain ⟨f, hf, hfunction, hdescription⟩ := exists_function hsource hevent
    obtain ⟨_, _, -, -, rfl⟩ := create_kotlin_eq_ok.mp hcreate
    rw [htemplates] at hprint
    obtain ⟨text, htext, hstands⟩ := Kotlin.File.stands_of_print hprint hf
    have hopens := (Kotlin.Function.isDescribed_of_print htext).opens
    have hcloses := Kotlin.Function.closes_of_print htext
    exact ⟨style, f, text, hfunction, hdescription, htext, hstands,
      hstands.tidy (hopens.indent 4) (hcloses.indent 4)⟩

/-- A schema with an event whose description is full of marks. -/
def ofMarks : Schema where
  projectId := "shop"
  versionNumber := 3
  events := [{ id := 1, name := "page opened", description := "/*/ and **// \n\n /**/ or * / *" }]

/-- The comment of the function in the code has none of them. -/
theorem comments_haveNoMarks_ofMarks :
    ∃ g code text, create .kotlin Settings.default = .ok g ∧ (g.generate ofMarks).1 = .ok code ∧
      Kotlin.IsCommented 4 (tidy (indent 4 text)) ∧ Stands (tidy (indent 4 text)) (tidy code) := by
  obtain ⟨g, code, hg, hcode⟩ : ∃ g code, create .kotlin Settings.default = .ok g ∧
      (g.generate ofMarks).1 = .ok code := exists_code (by decide +kernel)
  obtain ⟨style, f, text, -, hdescription, hprint, -, hstands⟩ :=
    comments_haveNoMarks.2 hg .refl rfl hcode _ List.mem_cons_self
  obtain ⟨-, -, hdescribed⟩ := comments_haveNoMarks.1 hprint
  rw [Kotlin.IsDescribed, hdescription, if_pos (by decide)] at hdescribed
  exact ⟨g, code, text, hg, hcode, hdescribed, hstands⟩

/-! ### Python -/

/-- The docstring of an event stands in the code for its schema, indented with its method. -/
theorem docstring_stands {doc : String} (hcreate : create .python settings = .ok g)
    (hbecomes : g.Becomes h) (htemplates : h.templates = g.templates)
    (hcode : (h.generate schema).1 = .ok code) (hevent : event ∈ schema.events)
    (hdoc : Python.docstring settings.options.addComments event.description = some doc) :
    Stands (indent 4 (indent 4 doc)) code := by
  obtain ⟨source, style, taken, scopes, m, hsource, -, rfl, -, hprint⟩ :=
    hbecomes.exists_module hcreate hcode
  obtain ⟨f, hf, -, hdescription⟩ := exists_function hsource hevent
  obtain ⟨_, _, -, -, rfl⟩ := create_python_eq_ok.mp hcreate
  rw [htemplates] at hprint
  exact Python.Module.stands_of_print hprint hf (hdescription ▸ hdoc)

/-- **No description ends a docstring early.** The docstring of a description that is not blank is a
literal that ends at its last three quotes, and what stands between its quotes is read as the
trimmed description, with a line end after it when it has more than one line. In the code for a
schema that has the description, indented and tidied, the literal ends at the same quotes. -/
theorem docstring_endsLast {d : String} (hd : Text.allBlank d.toList = false) :
    ∃ content, Python.docstring true d = some (Python.tripleQuoted 0 content) ∧
      Python.IsContent content ∧
      Python.literalRules.decode? content =
        some (Python.withLastLine (Text.trim Text.isBlank d.toList)) ∧
      ∀ {settings g h schema code event}, create .python settings = .ok g → g.Becomes h →
        h.templates = g.templates → settings.options.addComments = true →
        (h.generate schema).1 = .ok code → event ∈ schema.events → event.description = d →
        ∃ indented tidied,
          indent 4 (indent 4 (Python.tripleQuoted 0 content)) = Python.tripleQuoted 8 indented ∧
          Python.IsContent indented ∧ Stands (Python.tripleQuoted 8 indented) code ∧
          tidy (Python.tripleQuoted 8 indented) = Python.tripleQuoted 8 tidied ∧
          Python.IsContent tidied ∧ Stands (Python.tripleQuoted 8 tidied) (tidy code) := by
  obtain ⟨content, hdoc, hspells⟩ := Python.exists_docstring hd
  refine ⟨content, hdoc, hspells.enclosed.isContent, hspells.decode?_eq, ?_⟩
  intro settings g h schema code event hcreate hbecomes htemplates hcomments hcode hevent hd'
  have hstands := docstring_stands hcreate hbecomes htemplates hcode hevent
    (hcomments ▸ hd' ▸ hdoc)
  obtain ⟨indented, hindented, hindent⟩ := hspells.enclosed.exists_indent 8 0
  rw [← indent_indent 4 4] at hindent
  obtain ⟨tidied, htidied, htidy⟩ := hindented.exists_tidy 8
  rw [hindent] at hstands
  refine ⟨indented, tidied, hindent, hindented.isContent, hstands, htidy, htidied.isContent, ?_⟩
  rw [← htidy]
  exact hstands.tidy (Python.opens_tripleQuoted 8 indented) (Python.closes_tripleQuoted 8 indented)

/-- A description with quotes and backslashes in a row and at the ends of its lines. -/
def mixedQuotes : String := " \"\"\"\"a\\\" \n\n \\\"\"\" \\\n \"b\\\\\"\"\"\"\""

/-- A schema with an event that has the description. -/
def ofQuotes : Schema where
  projectId := "shop"
  versionNumber := 3
  events := [{ id := 1, name := "page opened", description := mixedQuotes }]

/-- The docstring of the method in the code ends at its last three quotes. -/
theorem docstring_endsLast_ofQuotes :
    ∃ content g code tidied,
      Python.docstring true mixedQuotes = some (Python.tripleQuoted 0 content) ∧
      Python.literalRules.decode? content = some (mixedQuotes.toList.drop 1 ++ ['\n']) ∧
      create .python Settings.default = .ok g ∧ (g.generate ofQuotes).1 = .ok code ∧
      tidy (indent 4 (indent 4 (Python.tripleQuoted 0 content))) = Python.tripleQuoted 8 tidied ∧
      Python.IsContent tidied ∧ Stands (Python.tripleQuoted 8 tidied) (tidy code) := by
  obtain ⟨g, code, hg, hcode⟩ : ∃ g code, create .python Settings.default = .ok g ∧
      (g.generate ofQuotes).1 = .ok code := exists_code (by decide +kernel)
  obtain ⟨content, hdoc, -, hdecode, hcontent⟩ := docstring_endsLast (d := mixedQuotes) (by decide)
  obtain ⟨indented, tidied, hindent, -, -, htidy, htidied, hstands⟩ :=
    hcontent hg .refl rfl rfl hcode List.mem_cons_self rfl
  have htrimmed : Python.withLastLine (Text.trim Text.isBlank mixedQuotes.toList) =
      mixedQuotes.toList.drop 1 ++ ['\n'] := by decide +kernel
  exact ⟨content, g, code, tidied, hdoc, htrimmed ▸ hdecode, hg, hcode, hindent ▸ htidy, htidied,
    hstands⟩

end Generator
end TrackingPlan
