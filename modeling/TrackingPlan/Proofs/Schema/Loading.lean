import TrackingPlan.Proofs.Files.Tree
import TrackingPlan.Proofs.Json.Newlines
import TrackingPlan.Transfer.File

/-!
# Two ways to a schema

The bytes of a file are loaded at once, or the document is first read from the file and the value
that was read is loaded. Reading turns the line ends of the file into line feeds, which changes no
document, so for most files both ways give one schema or both report a schema error. They differ in
three places: a file that is no UTF-8 text is reported as a schema error only when its bytes are
loaded; a text beyond the limits of one way is not reported as one by it; and a document that is a
string stands for another text when it is loaded as a value, but for no schema in the bytes. Nothing
is said of strings that are no texts of characters.

Key definitions: `Json.IsOfCharacters`, `Schema.ofFile`, `Schema.Alike`, `Schema.OfCharacters`,
`Schema.Settles`.
Key theorems: `Schema.documentOfBytes_of_text`, `Schema.alike_of_text_iff`,
`Schema.ofFile_alike_iff`.
-/

namespace TrackingPlan

/-- Where the text is JSON, its strings are texts of characters. -/
def Json.IsOfCharacters (text : String) : Prop := ∀ depth, Json.read depth text ≠ .error .loneHalf

/-- A text that is read under some depth is of that kind. -/
theorem Json.isOfCharacters_of_read {depth : Nat} {text : String} {v : Json}
    (h : Json.read depth text = .ok v) : Json.IsOfCharacters text := by
  intro depth' hhalf
  have hsame : Json.read depth' text = Json.read depth text :=
    Json.read_eq_of_not_tooDeep (by simp [h]) (by simp [hhalf])
  exact nomatch (hsame.symm.trans hhalf).symm.trans h

namespace Schema

/-! ### Schema errors -/

/-- What no schema is made of has a text that says why. -/
theorem explained_of_ofValue {v : Json} {e : SchemaError} (h : Schema.ofValue v = .error e) :
    e.message?.isSome := by
  unfold Schema.ofValue at h
  cases hv : Schema.decode v with
  | error fault =>
    rw [hv] at h
    obtain rfl : SchemaError.malformed fault = e := Except.error.inj h
    rfl
  | ok schema =>
    rw [hv] at h
    exact nomatch h

/-- A string is no schema. -/
theorem exists_ofValue_str (inner : String) : ∃ e, Schema.ofValue (.str inner) = .error e :=
  ⟨_, rfl⟩

/-! ### Ways that end alike -/

/-- Do both ways end in one schema, or each in a schema error with a text? -/
def Alike (read : Except FileError Schema) (loaded : Except SchemaError Schema) : Prop :=
  (∃ schema, read = .ok schema ∧ loaded = .ok schema) ∨
    (∃ e, read = .error (.schema e) ∧ e.message?.isSome) ∧
      ∃ e, loaded = .error e ∧ e.message?.isSome

/-- A result that the first way hands on as it is. -/
theorem alike_mapError {result : Except SchemaError Schema}
    (h : ∀ e, result = .error e → e.message?.isSome) : Alike (result.mapError .schema) result := by
  cases result with
  | error e => exact .inr ⟨⟨e, rfl, h e rfl⟩, e, rfl, h e rfl⟩
  | ok schema => exact .inl ⟨schema, rfl, rfl⟩

/-- A file that is read beyond the limits is not reported as one that is loaded. -/
theorem not_alike_unusable (path : String) (loaded : Except SchemaError Schema) :
    ¬ Alike (.error (.unusablePath path)) loaded := by
  rintro (⟨schema, hschema, -⟩ | ⟨⟨e, he, -⟩, -⟩)
  · exact nomatch hschema
  · exact nomatch he

/-- Bytes that are loaded beyond the limits are reported as no schema error. -/
theorem not_alike_beyondLimits (read : Except FileError Schema) :
    ¬ Alike read (.error .beyondLimits) := by
  rintro (⟨schema, -, hschema⟩ | ⟨-, e, he, hsome⟩)
  · exact nomatch hschema
  · obtain rfl : SchemaError.beyondLimits = e := Except.error.inj he
    exact Bool.false_ne_true hsome

/-- The error of a file whose text gives no value. -/
def faultOfFile (path : PathName) : Json.Fault → FileError
  | .malformed => .schema (.fileNotJson path.text)
  | .loneHalf => .schema .loneHalf
  | _ => .unusablePath path.text

/-- All strings that are read from the data are texts of characters; a document that is a string
is read itself. -/
structure OfCharacters (data : ByteArray) : Prop where
  outer : ∀ text, String.fromUTF8? data = some text → Json.IsOfCharacters text
  inner : ∀ text depth inner, String.fromUTF8? data = some text →
    Json.read depth text = .ok (.str inner) → Json.IsOfCharacters inner

end Schema

section Ways

variable [Depths] {files : FileTree} {name : String} {data : ByteArray}

/-- The schema of a file: the document is read, and what was read is loaded. -/
def Schema.ofFile (files : FileTree) (name : String) : Except FileError Schema := do
  let document ← readDocument files name
  (Document.value document).load.mapError .schema

namespace Schema

/-! ### Texts that are settled -/

/-- A text that both ways settle alike. -/
structure Settles (text : String) : Prop where
  withinLimits : ∀ fault, Json.read Depths.schemaText text = .error fault → fault = .malformed
  withinFileLimits : ∀ fault, Json.read Depths.schemaFile text = .error fault → fault = .malformed
  /-- A text in the text of a document is no schema, and is refused as one. -/
  inner_refused : ∀ inner, Json.read Depths.schemaFile text = .ok (.str inner) →
    ∃ e, Schema.ofText inner = .error e ∧ e.message?.isSome

/-- Both ways settle a text of a value that is no string. -/
theorem settles_of_value {text : String} {v : Json}
    (hread : Json.read Depths.schemaText text = .ok v)
    (hfile : Json.read Depths.schemaFile text = .ok v) (h : ∀ inner, v ≠ .str inner) :
    Settles text := by
  constructor
  · intro fault hfault
    exact nomatch hread.symm.trans hfault
  · intro fault hfault
    exact nomatch hfile.symm.trans hfault
  · intro inner hinner
    exact absurd (Except.ok.inj (hfile.symm.trans hinner)) (h inner)

/-- Both ways settle a text that is no JSON. -/
theorem settles_of_malformed {text : String}
    (hread : Json.read Depths.schemaText text = .error .malformed)
    (hfile : Json.read Depths.schemaFile text = .error .malformed) : Settles text := by
  constructor
  · intro fault hfault
    exact (Except.error.inj (hread.symm.trans hfault)).symm
  · intro fault hfault
    exact (Except.error.inj (hfile.symm.trans hfault)).symm
  · intro inner hinner
    exact nomatch hfile.symm.trans hinner

/-- The document of a text does not hang on how its lines end. -/
theorem documentOfBytes_of_text {text : String} (h : String.fromUTF8? data = some text)
    (path : PathName) :
    documentOfBytes path data =
      (Json.read Depths.schemaFile text).mapError (faultOfFile path) := by
  simp only [documentOfBytes, h, Json.read_normalizeNewlines]
  cases Json.read Depths.schemaFile text with
  | error fault => cases fault <;> rfl
  | ok v => rfl

theorem readDocument_of_read (h : files.read (PathName.ofString name) = .ok data) :
    readDocument files name = documentOfBytes (PathName.ofString name) data := by
  have hhas := FileTree.has_of_read h
  unfold readDocument
  generalize PathName.ofString name = path at *
  dsimp only
  rw [hhas, h]

/-! ### The two ways -/

variable {text : String}

theorem ofFile_of_text (h : files.read (PathName.ofString name) = .ok data)
    (htext : String.fromUTF8? data = some text) : Schema.ofFile files name =
      ((Json.read Depths.schemaFile text).mapError (faultOfFile (PathName.ofString name))).bind
        fun v => (Document.value v).load.mapError .schema := by
  rw [Schema.ofFile, readDocument_of_read h, documentOfBytes_of_text htext]
  rfl

theorem load_bytes_of_text (htext : String.fromUTF8? data = some text) :
    (Document.bytes data).load = Schema.ofText text := by
  simp only [Document.load, htext]

/-- A text that is one value of its own, and not the text of another document. -/
theorem alike_of_value {v : Json} (h : ∀ inner, v ≠ .str inner) :
    Alike ((Document.value v).load.mapError .schema) (Schema.ofValue v) := by
  have hload : (Document.value v).load = Schema.ofValue v := by
    cases v with
    | str inner => exact absurd rfl (h inner)
    | _ => rfl
  rw [hload]
  exact alike_mapError fun e he => explained_of_ofValue he

/-- A text that holds the text of another document. -/
theorem alike_of_str_iff (inner : String) :
    Alike ((Document.value (.str inner)).load.mapError .schema) (Schema.ofValue (.str inner)) ↔
      ∃ e, Schema.ofText inner = .error e ∧ e.message?.isSome := by
  obtain ⟨e', he'⟩ := exists_ofValue_str inner
  have hload : (Document.value (.str inner)).load = Schema.ofText inner := rfl
  rw [hload, he']
  constructor
  · rintro (⟨schema, -, hno⟩ | ⟨⟨e, he, hsome⟩, -⟩)
    · exact nomatch hno
    · cases hinner : Schema.ofText inner with
      | error fault =>
        rw [hinner] at he
        obtain rfl : fault = e := FileError.schema.inj (Except.error.inj he)
        exact ⟨fault, rfl, hsome⟩
      | ok schema =>
        rw [hinner] at he
        exact nomatch he
  · rintro ⟨e, he, hsome⟩
    rw [he]
    exact .inr ⟨⟨e, rfl, hsome⟩, e', rfl, explained_of_ofValue he'⟩

/-- A text that both ways read as one value. -/
theorem alike_of_read_iff {text : String} {v : Json}
    (hread : Json.read Depths.schemaText text = .ok v)
    (hfile : Json.read Depths.schemaFile text = .ok v) :
    Alike ((Document.value v).load.mapError .schema) (Schema.ofValue v) ↔ Settles text := by
  by_cases hstr : ∃ inner, v = .str inner
  · obtain ⟨inner, rfl⟩ := hstr
    rw [alike_of_str_iff]
    constructor
    · intro hrefused
      refine ⟨fun fault hfault => ?_, fun fault hfault => ?_, fun inner' hinner => ?_⟩
      · exact nomatch hread.symm.trans hfault
      · exact nomatch hfile.symm.trans hfault
      · obtain rfl : inner = inner' := Json.str.inj (Except.ok.inj (hfile.symm.trans hinner))
        exact hrefused
    · exact fun hsettles => hsettles.inner_refused inner hfile
  · have hother : ∀ inner, v ≠ .str inner := fun inner h => hstr ⟨inner, h⟩
    exact iff_of_true (alike_of_value hother) (settles_of_value hread hfile hother)

/-- Texts that are UTF-8, by what JSON makes of them. -/
theorem alike_of_text_iff (path : PathName) {text : String} (hchars : Json.IsOfCharacters text) :
    Alike (((Json.read Depths.schemaFile text).mapError (faultOfFile path)).bind
        fun v => (Document.value v).load.mapError .schema) (Schema.ofText text) ↔
      Settles text := by
  by_cases hdeepFile : Json.read Depths.schemaFile text = .error .tooDeep
  · rw [hdeepFile]
    exact iff_of_false (not_alike_unusable _ _) fun h => nomatch h.withinFileLimits _ hdeepFile
  by_cases hdeepText : Json.read Depths.schemaText text = .error .tooDeep
  · have htext : Schema.ofText text = .error .beyondLimits := by simp only [ofText, hdeepText]
    rw [htext]
    exact iff_of_false (not_alike_beyondLimits _) fun h => nomatch h.withinLimits _ hdeepText
  -- The text is not too deep for either way, so both read the same.
  have hsame := Json.read_eq_of_not_tooDeep hdeepFile hdeepText
  cases hfile : Json.read Depths.schemaFile text with
  | error fault =>
    cases fault with
    | malformed =>
      have hread := hsame.trans hfile
      have htext : Schema.ofText text = .error .notJson := by simp only [Schema.ofText, hread]
      rw [htext]
      exact iff_of_true (.inr ⟨⟨_, rfl, rfl⟩, _, rfl, rfl⟩) (settles_of_malformed hread hfile)
    | tooDeep => exact absurd hfile hdeepFile
    | integerTooLong =>
      exact iff_of_false (not_alike_unusable _ _) fun h => nomatch h.withinFileLimits _ hfile
    | loneHalf => exact absurd hfile (hchars _)
  | ok v =>
    have hread := hsame.trans hfile
    have htext : Schema.ofText text = Schema.ofValue v := by simp only [Schema.ofText, hread]
    rw [htext]
    exact alike_of_read_iff hread hfile

/-- **Reading a file and loading its bytes** end alike exactly when the file is a text within the
limits of both ways that does not hold the text of another document. -/
theorem ofFile_alike_iff (h : files.read (PathName.ofString name) = .ok data)
    (hchars : OfCharacters data) :
    Alike (Schema.ofFile files name) (Document.bytes data).load ↔
      ∃ text, String.fromUTF8? data = some text ∧ Settles text := by
  cases htext : String.fromUTF8? data with
  | none =>
    have hfile : Schema.ofFile files name =
        .error (.unusablePath (PathName.ofString name).text) := by
      rw [Schema.ofFile, readDocument_of_read h, documentOfBytes, htext]
      rfl
    rw [hfile]
    exact iff_of_false (not_alike_unusable _ _) fun ⟨text, hno, _⟩ => nomatch hno
  | some text =>
    rw [ofFile_of_text h htext, load_bytes_of_text htext,
      alike_of_text_iff _ (hchars.outer text htext)]
    constructor
    · exact fun hsettles => ⟨text, rfl, hsettles⟩
    · rintro ⟨text', heq, hsettles⟩
      exact Option.some.inj heq ▸ hsettles

end Schema
end Ways

namespace Schema

/-- A file of a plan whose lines end in a carriage return and a line feed. -/
def twoLines : String := "\x7b\"projectId\": \"shop\",\r\n \"versionNumber\": 3, \"events\": []\x7d"

theorem read_twoLines : Json.read 2 twoLines = .ok (.obj [("projectId", .str "shop"),
    ("versionNumber", .int 3), ("events", .arr [])]) := by
  decide +kernel

/-- The line ends of a file make no difference. -/
theorem ofFile_alike_iff_twoLines :
    let _ : Depths := .uniform 2
    let files : FileTree := { files := [(["plan.json"], twoLines.toUTF8)] }
    files.read (PathName.ofString "plan.json") = .ok twoLines.toUTF8 ∧
      OfCharacters twoLines.toUTF8 ∧
      Alike (Schema.ofFile files "plan.json") (Document.bytes twoLines.toUTF8).load := by
  intro _ files
  have hread : files.read (PathName.ofString "plan.json") = .ok twoLines.toUTF8 := rfl
  have htext : String.fromUTF8? twoLines.toUTF8 = some twoLines := by decide +kernel
  have hsettles : Settles twoLines :=
    settles_of_value read_twoLines read_twoLines fun _ h => nomatch h
  have hchars : OfCharacters twoLines.toUTF8 := by
    constructor
    · rintro text h
      obtain rfl := Option.some.inj (htext.symm.trans h)
      exact Json.isOfCharacters_of_read read_twoLines
    · rintro text depth inner h hinner
      obtain rfl := Option.some.inj (htext.symm.trans h)
      exact nomatch Json.eq_of_read hinner read_twoLines
  exact ⟨hread, hchars, (ofFile_alike_iff hread hchars).mpr ⟨twoLines, htext, hsettles⟩⟩

/-- A file that is no text ends in a schema error only when its bytes are loaded. -/
theorem not_alike_invalid :
    let _ : Depths := .uniform 2
    let files : FileTree := { files := [(["s.json"], ⟨#[0xff]⟩)] }
    files.read (PathName.ofString "s.json") = .ok ⟨#[0xff]⟩ ∧ OfCharacters ⟨#[0xff]⟩ ∧
      ¬ Alike (Schema.ofFile files "s.json") (Document.bytes ⟨#[0xff]⟩).load := by
  intro _ files
  have hnone : String.fromUTF8? ⟨#[0xff]⟩ = none := by decide +kernel
  have hfile : Schema.ofFile files "s.json" = .error (.unusablePath "s.json") := by decide +kernel
  have hchars : OfCharacters ⟨#[0xff]⟩ := ⟨by simp [hnone], by simp [hnone]⟩
  rw [hfile]
  exact ⟨rfl, hchars, not_alike_unusable _ _⟩

end Schema
end TrackingPlan
