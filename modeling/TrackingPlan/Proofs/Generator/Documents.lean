import TrackingPlan.Proofs.Generator.Use
import TrackingPlan.Proofs.Json.RoundTrip
import TrackingPlan.Proofs.Schema.Loading
import TrackingPlan.Proofs.Settings.Blame
import TrackingPlan.Proofs.Settings.Precedence

/-!
# Runs that start from a document

Whatever goes wrong on the way from a document to code ends in a failure that carries no code, no
warnings and no description, but a message and a cause: the document gives no schema, no generator
can be made under the configuration, the schema cannot be checked or its code cannot be written.
The one thing that is not caught is a text beyond the limits of JSON, for which there is no outcome
at all. Nothing is said of strings that are no texts of characters.

Key definitions: `Document.OfCharacters`, `ConfigSource.OfCharacters`, `Document.WithinLimits`,
`Outcome.Whole`, `EndsIn`.
Key theorems: `Document.load_unexplained_iff`, `endsIn_of_generateFromDocument`,
`generateFromDocument_whole_iff`.
-/

namespace TrackingPlan

/-- The text of a document, unless it is a value that is read already or no text at all. -/
def Document.text? : Document → Option String
  | bytes data => String.fromUTF8? data
  | value (.str text) => some text
  | value _ => none

/-- The strings that are read from the document are texts of characters. -/
def Document.OfCharacters (d : Document) : Prop := ∀ text ∈ d.text?, Json.IsOfCharacters text

/-- An outcome is all of a success or all of a failure. -/
def Outcome.Whole (o : Outcome) : Prop :=
  (o.message? = none ∧ o.cause? = none ∧ o.metadata?.isSome) ∨
    (o.message?.isSome ∧ o.cause?.isSome ∧ o.code = "" ∧ o.warnings = [] ∧ o.metadata? = none)

theorem Outcome.whole : ∀ o : Outcome, o.Whole
  | success _ => .inl ⟨rfl, rfl, rfl⟩
  | failure _ _ => .inr ⟨rfl, rfl, rfl, rfl, rfl⟩

section Depth

variable [Depths]

/-- The text of the document, if it has one, does not go beyond the limits of JSON. -/
def Document.WithinLimits (d : Document) : Prop :=
  ∀ text ∈ d.text?, ∀ fault, Json.read Depths.schemaText text = .error fault → fault = .malformed

/-- The strings that are read from a configuration file, if there is one, are texts of
characters. -/
def ConfigSource.OfCharacters (files : FileTree) (config : ConfigSource) : Prop :=
  ∀ file path, config = .file file → Settings.readFile files file ≠ .error (.loneHalf path)

/-! ### Loading -/

/-- A text is refused without a text of its own when it is beyond the limits, and never else. -/
theorem Schema.ofText_unexplained_iff {text : String} (hchars : Json.IsOfCharacters text)
    {e : SchemaError} : (Schema.ofText text = .error e ∧ e.message? = none) ↔
      e = .beyondLimits ∧ ∃ fault, Json.read Depths.schemaText text = .error fault ∧
        fault ≠ .malformed := by
  have hother : ofText text = .error .notJson → ¬ (ofText text = .error e ∧ e.message? = none) := by
    rintro hno ⟨he, hnone⟩
    obtain rfl := Except.error.inj (hno.symm.trans he)
    cases hnone
  have hbeyond : ofText text = .error .beyondLimits →
      ((ofText text = .error e ∧ e.message? = none) ↔ e = .beyondLimits) := by
    intro hno
    rw [hno]
    constructor
    · exact fun h => (Except.error.inj h.1).symm
    · rintro rfl
      exact ⟨rfl, rfl⟩
  cases hread : Json.read Depths.schemaText text with
  | ok v =>
    have htext : ofText text = ofValue v := by simp only [ofText, hread]
    rw [htext]
    constructor
    · rintro ⟨he, hnone⟩
      have hsome := explained_of_ofValue he
      simp [hnone] at hsome
    · rintro ⟨-, _, hno, -⟩
      cases hno
  | error fault =>
    cases fault with
    | malformed =>
      refine iff_of_false (hother (by simp only [ofText, hread])) ?_
      rintro ⟨-, _, hno, hne⟩
      exact hne (Except.error.inj hno).symm
    | loneHalf => exact absurd hread (hchars _)
    | tooDeep | integerTooLong =>
      rw [hbeyond (by simp only [ofText, hread])]
      exact (and_iff_left ⟨_, rfl, by simp⟩).symm

namespace Document

variable {d : Document}

theorem load_of_text {text : String} (h : d.text? = some text) : d.load = Schema.ofText text := by
  cases d with
  | bytes data => exact Schema.load_bytes_of_text h
  | value v =>
    cases v with
    | str inner => exact Option.some.inj h ▸ rfl
    | _ => cases h

/-- A document that is no text is never refused without a text. -/
theorem explained_of_load (h : d.text? = none) {e : SchemaError} (he : d.load = .error e) :
    e.message?.isSome := by
  cases d with
  | bytes data =>
    have hnone : String.fromUTF8? data = none := h
    simp only [load, hnone] at he
    exact Except.error.inj he ▸ rfl
  | value v =>
    cases v with
    | str inner => cases h
    | _ => exact Schema.explained_of_ofValue he

/-- **A document is refused without a text exactly when it goes beyond the limits.** -/
theorem load_unexplained_iff (hchars : d.OfCharacters) {e : SchemaError} :
    (d.load = .error e ∧ e.message? = none) ↔ e = .beyondLimits ∧ ¬ d.WithinLimits := by
  cases htext : d.text? with
  | some text =>
    rw [load_of_text htext, Schema.ofText_unexplained_iff (hchars text htext)]
    simp [WithinLimits, htext]
  | none =>
    have hwithin : d.WithinLimits := by simp [WithinLimits, htext]
    refine iff_of_false ?_ fun h => h.2 hwithin
    rintro ⟨he, hnone⟩
    have hsome := explained_of_load htext he
    simp [hnone] at hsome

end Document

/-! ### Runs -/

variable {files : FileTree} {document : Document} {language : String} {config : ConfigSource}
  {outcome : Outcome}

/-- How a run that starts from a document ends. -/
inductive EndsIn (files : FileTree) (document : Document) (language : String)
    (config : ConfigSource) : Outcome → Prop
  | notLoaded {e : SchemaError} {message : String} (load : document.load = .error e)
      (explained : e.message? = some message) :
      EndsIn files document language config (.failure message (.schema e))
  | notCreated {schema : Schema} {e : RegistryError} (load : document.load = .ok schema)
      (create : Registry.builtin.create files language config = .error e) :
      EndsIn files document language config (.failure e.message (.registry e))
  | notChecked {schema : Schema} {g : Generator} {e : GenerationError}
      (load : document.load = .ok schema)
      (create : Registry.builtin.create files language config = .ok g)
      (warnings : g.warnings schema = .error e) :
      EndsIn files document language config (.ofError e)
  | notWritten {schema : Schema} {g : Generator} {warnings : List Warning} {e : GenerationError}
      (load : document.load = .ok schema)
      (create : Registry.builtin.create files language config = .ok g)
      (warnings : g.warnings schema = .ok warnings)
      (generate : (g.generate schema).1 = .error e) :
      EndsIn files document language config (.ofError e)
  | written {schema : Schema} {g : Generator} {warnings : List Warning} {code : String}
      (load : document.load = .ok schema)
      (create : Registry.builtin.create files language config = .ok g)
      (warnings_eq : g.warnings schema = .ok warnings)
      (generate : (g.generate schema).1 = .ok code) :
      EndsIn files document language config (.success {
        code := Layout.tidy code
        warnings
        metadata := .of g.target g.settings schema })

/-- **A run that gives an outcome has ended in one of five ways.** -/
theorem endsIn_of_generateFromDocument
    (h : generateFromDocument files document language config = .ok outcome) :
    EndsIn files document language config outcome := by
  unfold generateFromDocument at h
  cases hload : document.load with
  | error e =>
    rw [hload] at h
    cases hmessage : e.message? with
    | none =>
      simp only [hmessage] at h
      exact nomatch h
    | some message =>
      simp only [hmessage] at h
      exact Except.ok.inj h ▸ .notLoaded hload hmessage
  | ok schema =>
    rw [hload] at h
    cases hcreate : Registry.builtin.create files language config with
    | error e =>
      simp only [hcreate] at h
      split at h
      · exact nomatch h
      · exact Except.ok.inj h ▸ .notCreated hload hcreate
    | ok g =>
      simp only [hcreate, Generator.run_fst] at h
      cases hwarnings : g.warnings schema with
      | error e =>
        simp only [hwarnings] at h
        exact Except.ok.inj h ▸ .notChecked hload hcreate hwarnings
      | ok warnings =>
        cases hgenerate : (g.generate schema).1 with
        | error e =>
          simp only [hwarnings, hgenerate] at h
          exact Except.ok.inj h ▸ .notWritten hload hcreate hwarnings hgenerate
        | ok code =>
          simp only [hwarnings, hgenerate] at h
          exact Except.ok.inj h ▸ .written hload hcreate hwarnings hgenerate

/-- A run gives no outcome exactly when its document goes beyond the limits. -/
theorem generateFromDocument_eq_error (hchars : document.OfCharacters)
    (hconfig : config.OfCharacters files) {e : SchemaError} :
    generateFromDocument files document language config = .error e ↔
      e = .beyondLimits ∧ ¬ document.WithinLimits := by
  rw [← Document.load_unexplained_iff hchars]
  unfold generateFromDocument
  cases hload : document.load with
  | error fault =>
    cases hmessage : fault.message? with
    | none =>
      simp only [hmessage, Except.error.injEq]
      exact ⟨fun h => ⟨h, h ▸ hmessage⟩, fun h => h.1⟩
    | some message =>
      simp only [hmessage, Except.error.injEq]
      refine iff_of_false nofun fun ⟨he, hnone⟩ => ?_
      subst he
      exact nomatch hmessage.symm.trans hnone
  | ok schema =>
    refine iff_of_false (fun h => ?_) fun h => nomatch h.1
    cases hcreate : Registry.builtin.create files language config with
    | error fault =>
      simp only [hcreate] at h
      split at h
      · rename_i hhalf
        obtain ⟨file, path, hfile, hread⟩ := Registry.exists_file_of_isLoneHalf hcreate hhalf
        exact hconfig file path hfile hread
      · exact nomatch h
    | ok g =>
      simp only [hcreate] at h
      exact nomatch h

/-- **A run that starts from a document ends in a whole outcome, in one of five ways**, exactly when
the document is within the limits. -/
theorem generateFromDocument_whole_iff (hchars : document.OfCharacters)
    (hconfig : config.OfCharacters files) :
    (∃ outcome, generateFromDocument files document language config = .ok outcome ∧
      EndsIn files document language config outcome ∧ outcome.Whole) ↔ document.WithinLimits := by
  constructor
  · rintro ⟨outcome, hok, -⟩
    by_contra hbeyond
    have herror : generateFromDocument files document language config = .error .beyondLimits :=
      (generateFromDocument_eq_error hchars hconfig).mpr ⟨rfl, hbeyond⟩
    exact nomatch hok.symm.trans herror
  · intro hwithin
    cases hrun : generateFromDocument files document language config with
    | error e =>
      exact absurd hwithin ((generateFromDocument_eq_error hchars hconfig).mp hrun).2
    | ok outcome => exact ⟨outcome, rfl, endsIn_of_generateFromDocument hrun, outcome.whole⟩

end Depth

/-- A run under a configuration file. -/
theorem generateFromDocument_whole_iff_levels : ∃ _ : Depths, ∃ outcome,
    generateFromDocument Settings.levelsFile (.value (.str Schema.twoLines)) "kotlin"
      (.file "levels.json") = .ok outcome ∧
    EndsIn Settings.levelsFile (.value (.str Schema.twoLines)) "kotlin" (.file "levels.json")
      outcome ∧ outcome.Whole := by
  let depths : Depths := .uniform 2
  have hchars : (Document.value (.str Schema.twoLines)).OfCharacters := fun text htext =>
    Option.some.inj htext ▸ Json.isOfCharacters_of_read Schema.read_twoLines
  have hconfig : (ConfigSource.file "levels.json").OfCharacters Settings.levelsFile := by
    intro file path hfile hhalf
    obtain rfl : "levels.json" = file := ConfigSource.file.inj hfile
    have hread : Settings.fileMembers Settings.levelsFile "levels.json" = .error (.loneHalf path) :=
      (if_neg (by decide)).trans hhalf
    exact nomatch hread.symm.trans Settings.levels_read
  have hwithin : (Document.value (.str Schema.twoLines)).WithinLimits := by
    intro text htext fault hfault
    obtain rfl : Schema.twoLines = text := Option.some.inj htext
    exact nomatch hfault.symm.trans Schema.read_twoLines
  exact ⟨depths, (generateFromDocument_whole_iff hchars hconfig).mpr hwithin⟩

/-- A document that is a number with one digit more than may be read. -/
def Document.tooLong : Document :=
  .value (.str (String.ofList (List.replicate (maxIntegerDigits + 1) '1')))

/-- It gives no outcome at all. -/
theorem generateFromDocument_tooLong :
    let _ : Depths := .uniform 2
    Document.tooLong.OfCharacters ∧
      generateFromDocument {} Document.tooLong = .error .beyondLimits := by
  intro depths
  have hread (depth : Nat) : Json.read depth
      (String.ofList (List.replicate (maxIntegerDigits + 1) '1')) = .error .integerTooLong := by
    have hdigits : ∀ d ∈ List.replicate maxIntegerDigits '1', d.isDigit := fun d hd =>
      List.eq_of_mem_replicate hd ▸ rfl
    rw [List.replicate_succ]
    exact Json.read_of_manyDigits rfl (by decide) hdigits
      (Nat.le_of_eq List.length_replicate.symm)
  have hchars : Document.tooLong.OfCharacters := by
    intro text htext depth hhalf
    obtain rfl := Option.some.inj htext
    exact nomatch hhalf.symm.trans (hread depth)
  have hbeyond : ¬ Document.tooLong.WithinLimits := by
    intro hwithin
    have hfault : Json.Fault.integerTooLong = .malformed :=
      hwithin _ rfl _ (hread Depths.schemaText)
    exact nomatch hfault
  have hconfig : ConfigSource.standard.OfCharacters {} := fun _ _ hfile => nomatch hfile
  exact ⟨hchars, (generateFromDocument_eq_error hchars hconfig).mpr ⟨rfl, hbeyond⟩⟩

end TrackingPlan
