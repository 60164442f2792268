import TrackingPlan.Proofs.Generator.Use
import TrackingPlan.Proofs.Kotlin.Literals
import TrackingPlan.Proofs.Python.Literals
import TrackingPlan.Proofs.Registry

/-!
# Static values in generated code

Whatever a static value and its key hold, the tidied code has a line for them, and these lines
stand in the order of the records: a literal is on one line, and no indentation and no tidying
takes anything from its line.

Key definitions: `Target.literalLines`, `SourceFile.KeepsLiterals`.
Key theorems: `Generator.generate_keepsLiterals`, `keepsLiterals`.
-/

namespace TrackingPlan

open Layout Steps

/-- The lines of the static values of a record in code for a target. -/
def Target.literalLines : Target → EventRecord → List String
  | .plain, _ => []
  | .kotlin, r => (Kotlin.literalLines r.entries).map (blanks 16 ++ ·)
  | .python, r => (Python.literalLines r).map (blanks 20 ++ ·)

example : Target.python.literalLines
    { name := "page opened", entries := [⟨.str "a \n", .literal "b\n\n\n \"c\" "⟩] } =
      ["                    \"a \\n\": \"b\\n\\n\\n \\\"c\\\" \","] := by decide

/-- The text has the lines of all static values of the source, in order. -/
def SourceFile.KeepsLiterals (source : SourceFile) (target : Target) (text : String) : Prop :=
  (source.functions.flatMap fun f => f.records.flatMap target.literalLines).Sublist
    (textLines text)

theorem SourceFile.KeepsLiterals.tidy {source : SourceFile} {target : Target} {code : String}
    (h : source.KeepsLiterals target code) : source.KeepsLiterals target (tidy code) := by
  refine sublist_tidy h fun l hl => ?_
  obtain ⟨f, -, hl⟩ := List.mem_flatMap.mp hl
  obtain ⟨r, -, hl⟩ := List.mem_flatMap.mp hl
  cases target with
  | plain => exact absurd hl List.not_mem_nil
  | kotlin => exact settled_map_blanks Kotlin.settled_of_mem_literalLines 16 l hl
  | python => exact settled_map_blanks Python.settled_of_mem_literalLines 20 l hl

namespace Generator

variable {target : Target} {settings : Settings} {g h : Generator} {schema : Schema}
  {code : String}

theorem render_keepsLiterals_kotlin (hcreate : create .kotlin settings = .ok g)
    (hreach : g.Reaches h) (htemplates : h.templates = g.templates) {source : SourceFile}
    (hrender : (h.render source).1 = .ok code) : source.KeepsLiterals .kotlin code := by
  obtain ⟨-, style, hemitter⟩ := emitter_of_create_kotlin hcreate hreach
  obtain ⟨_, _, -, -, rfl⟩ := create_kotlin_eq_ok.mp hcreate
  simp only [render, hemitter, htemplates] at hrender
  have hlines := Kotlin.File.sublist_print hrender
  simp only [List.map_flatMap] at hlines
  exact hlines

theorem render_keepsLiterals_python (hcreate : create .python settings = .ok g)
    (hreach : g.Reaches h) (htemplates : h.templates = g.templates) {source : SourceFile}
    (hsource : schema.toSource h.options = .ok source)
    (hrender : (h.render source).1 = .ok code) : source.KeepsLiterals .python code := by
  obtain ⟨-, _, style, scopes, -, -, hemitter, hscopes⟩ := emitter_of_create_python hcreate hreach
  obtain ⟨taken, htaken⟩ := exists_moduleNames hemitter hrender
  obtain ⟨_, _, -, -, rfl⟩ := create_python_eq_ok.mp hcreate
  rw [render_eq_print (module?_of_emitter hemitter htaken), htemplates] at hrender
  have hlines := Python.Module.sublist_print
    (Python.Module.methods_write hscopes (Schema.closed_of_toSource hsource)) hrender
  simp only [List.map_flatMap] at hlines
  exact hlines

/-- **Tidied code keeps the static values**, when no template was stored. -/
theorem generate_keepsLiterals (hcreate : create target settings = .ok g) (hreach : g.Reaches h)
    (htemplates : h.templates = g.templates) (hcode : (h.generate schema).1 = .ok code) :
    ∃ source, schema.toSource settings.options = .ok source ∧
      source.KeepsLiterals target (Layout.tidy code) := by
  obtain ⟨source, hsource, hrender⟩ := generate_eq_ok.mp hcode
  have hoptions : h.options = settings.options := by
    rw [options, hreach.follows.settings, settings_of_create hcreate]
  refine ⟨source, hoptions ▸ hsource, SourceFile.KeepsLiterals.tidy ?_⟩
  cases target with
  | plain =>
    have hnone : (source.functions.flatMap fun f =>
        f.records.flatMap Target.plain.literalLines) = [] := by
      simp [Target.literalLines]
    rw [SourceFile.KeepsLiterals, hnone]
    exact List.nil_sublist _
  | kotlin => exact render_keepsLiterals_kotlin hcreate hreach htemplates hrender
  | python => exact render_keepsLiterals_python hcreate hreach htemplates hsource hrender

end Generator

/-- **Static values reach the final text whole**: the code that a generator writes, however it
was used before, and the text that is made for a schema in a built-in language have a line for
every one of them, in the order of the records. -/
theorem keepsLiterals [Depths] :
    (∀ {target settings g h schema code}, Generator.create target settings = .ok g →
      g.Reaches h → h.templates = g.templates → (h.generate schema).1 = .ok code →
        ∃ source, schema.toSource settings.options = .ok source ∧
          source.KeepsLiterals target (tidy code)) ∧
    (∀ {schema className metadata language text},
      generateText schema className metadata language = .ok text →
        ∃ target settings source, Registry.builtin.resolve language = .ok target.name ∧
          Settings.forLanguage {} target.name (textOverrides className metadata) = .ok settings ∧
          schema.toSource settings.options = .ok source ∧ source.KeepsLiterals target text) := by
  refine ⟨fun hcreate hreach htemplates hcode =>
    Generator.generate_keepsLiterals hcreate hreach htemplates hcode, ?_⟩
  intro schema className metadata language text htext
  simp only [generateText, bind_eq_ok, mapError_eq_ok, pure_eq_ok] at htext
  obtain ⟨g, hg, code, hcode, rfl⟩ := htext
  obtain ⟨target, settings, hlanguage, hsettings, hcreate⟩ := Registry.builtin_create_eq_ok hg
  obtain ⟨source, hsource, hkeeps⟩ :=
    Generator.generate_keepsLiterals hcreate .refl rfl hcode
  exact ⟨target, settings, source, hlanguage, hsettings, hsource, hkeeps⟩

/-- A schema with static values that hold line feeds, white space and quotes. -/
def Schema.awkward : Schema where
  projectId := "shop"
  versionNumber := 3
  events := [
    { id := 1, name := "page opened"
      values := [
        { parameter := { name := "title \n\n", type := .primitive .string }
          string := some "  a \n\n\n \"b\" \t" },
        { parameter := { name := "count", type := .primitive .integer }, integer := some 2 }] }]

theorem keepsLiterals_awkward :
    ∃ _ : Depths, (∃ g code source, Generator.create .kotlin Settings.default = .ok g ∧
      (g.generate Schema.awkward).1 = .ok code ∧
      Schema.awkward.toSource Settings.default.options = .ok source ∧
      source.KeepsLiterals .kotlin (tidy code)) ∧
    ∃ text target source,
      generateText Schema.awkward (.str "AnalyticsEvent") (.bool true) "py" = .ok text ∧
      Registry.builtin.resolve "py" = .ok (Target.name target) ∧
      SourceFile.KeepsLiterals source target text := by
  let depths : Depths := .uniform 1
  refine ⟨depths, ?_, ?_⟩
  · obtain ⟨g, code, hg, hcode⟩ : ∃ g code, Generator.create .kotlin Settings.default = .ok g ∧
        (g.generate Schema.awkward).1 = .ok code := Generator.exists_code (by decide +kernel)
    obtain ⟨source, hsource, hkeeps⟩ := keepsLiterals.1 hg .refl rfl hcode
    exact ⟨g, code, source, hg, hcode, hsource, hkeeps⟩
  · have hisOk : (generateText Schema.awkward (.str "AnalyticsEvent") (.bool true) "py").isOk := by
      decide +kernel
    obtain ⟨text, htext⟩ := exists_of_isOk hisOk
    obtain ⟨target, _, source, htarget, -, -, hkeeps⟩ := keepsLiterals.2 htext
    exact ⟨text, target, source, htext, htarget, hkeeps⟩

end TrackingPlan
