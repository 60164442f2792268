import TrackingPlan.Proofs.Generator.Use
import TrackingPlan.Proofs.Text.Case

/-!
# The names at the top of a Kotlin file

A Kotlin file has four kinds of names at its top: the types that it imports, the constant for the
version of the schema, the object and the enumerations. Each kind by itself keeps its names apart
when the source has no conflicts, and no enumeration starts with a small letter, as the constant
and the keywords do. The object can still have a name of each other kind, and an enumeration that
of an imported type; nothing looks for these clashes.

Key definitions: `simpleName`, `File.topLevelNames`, `File.IsSpacious`.
Key theorems: `not_startsSmall_typeName`, `topLevelNames_nodup_iff`,
`Generator.file_keepsNamesApart_iff`.
-/

namespace TrackingPlan

open Naming

/-! ### Type names -/

theorem Naming.not_startsSmall_typeName (name : String) :
    Text.startsSmall (typeName name).toList = false := by
  rw [typeName, normalize, String.toList_ofList]
  exact Text.not_startsSmall_capitalize _

namespace Kotlin

theorem startsSmall_keyword : ∀ word ∈ keywords, Text.startsSmall word.toList = true := by decide

/-- No type name is a keyword. -/
theorem escapeIdentifier_typeName (name : String) :
    escapeIdentifier (typeName name) = typeName name := by
  refine if_neg fun hkeyword => ?_
  have hsmall := startsSmall_keyword _ hkeyword
  rw [not_startsSmall_typeName] at hsmall
  exact nomatch hsmall

/-! ### The names of a file -/

/-- The name that an import brings into the file: what follows the last point. -/
def simpleName (path : String) : String :=
  String.ofList (path.toList.reverse.takeWhile (· ≠ '.')).reverse

/-- The names at the top of a file, in the order in which they are written. -/
def File.topLevelNames (style : Style) (f : File) : List String :=
  f.imports.map simpleName ++
    (f.schemaVersion.bind fun _ => style.schemaVersionConstant.display?).toList ++
    (f.objectName.bind (·.display?)).toList ++ f.enums.map (·.name)

/-- The names of the four kinds leave each other room. -/
structure File.IsSpacious (objectName : String) (source : SourceFile) : Prop where
  object_import : objectName ∉ importedTypes source
  object_constant : source.schemaVersion.isSome → objectName ≠ "mammothSchemaVersion"
  object_enum : ∀ e ∈ source.enums, e.identifier ≠ objectName
  enum_import : ∀ e ∈ source.enums, e.identifier ∉ importedTypes source

variable {options : Options} {source : SourceFile} {schema : Schema} {className : String}

theorem importedTypes_sublist (source : SourceFile) :
    (importedTypes source).Sublist ["Boolean", "Int", "String"] := by
  unfold importedTypes
  split <;> split <;> split <;> decide

/-- Every import brings in the type that it is there for. -/
theorem simpleName_imports (source : SourceFile) :
    ((importedTypes source).map ("kotlin." ++ ·)).map simpleName = importedTypes source := by
  have hword : ∀ word ∈ ["Boolean", "Int", "String"], simpleName ("kotlin." ++ word) = word := by
    decide
  rw [List.map_map]
  refine (List.map_congr_left fun word hmem => ?_).trans (List.map_id _)
  exact hword word ((importedTypes_sublist source).subset hmem)

/-- The constant for the version of the schema, when there is one. -/
def versionConstant (source : SourceFile) : List String :=
  if source.schemaVersion.isSome then ["mammothSchemaVersion"] else []

theorem mem_versionConstant {name : String} : name ∈ versionConstant source ↔
    source.schemaVersion.isSome ∧ name = "mammothSchemaVersion" := by
  unfold versionConstant
  split
  · rename_i hsome
    rw [List.mem_singleton]
    exact (and_iff_right hsome).symm
  · rename_i hnone
    exact iff_of_false List.not_mem_nil fun h => hnone h.1

theorem nodup_versionConstant (source : SourceFile) : (versionConstant source).Nodup := by
  unfold versionConstant
  split <;> decide

/-- The constant starts with a small letter. -/
theorem not_mem_versionConstant {name : String} (h : Text.startsSmall name.toList = false) :
    name ∉ versionConstant source := by
  intro hname
  obtain ⟨-, rfl⟩ := mem_versionConstant.mp hname
  exact absurd h (by decide)

theorem topLevelNames_ofSource (hobject : source.objectName = .str className)
    (htypes : ∀ e ∈ source.enums, ∃ name, e.identifier = typeName name) :
    (File.ofSource options {} source).topLevelNames {} =
      importedTypes source ++ versionConstant source ++ [escapeIdentifier className] ++
        source.enums.map (·.identifier) := by
  have henums : (source.enums.map EnumClass.of).map (·.name) = source.enums.map (·.identifier) := by
    rw [List.map_map]
    refine List.map_congr_left fun e he => ?_
    obtain ⟨name, hname⟩ := htypes e he
    show escapeIdentifier e.identifier = e.identifier
    rw [hname, escapeIdentifier_typeName]
  have hconstant : (source.schemaVersion.bind fun _ =>
      ({} : Style).schemaVersionConstant.display?).toList = versionConstant source := by
    unfold versionConstant
    cases source.schemaVersion <;> rfl
  rw [File.topLevelNames, File.ofSource]
  simp only [simpleName_imports, hconstant, hobject, henums]
  rfl

/-- Four kinds of names are all different when each kind is and no two kinds share a name. -/
theorem nodup_kinds_iff {imports constants enums : List String} {objectName : String}
    (himports : imports.Nodup) (hconstants : constants.Nodup) (henums : enums.Nodup)
    (himport : ∀ name ∈ imports, name ∉ constants) (henum : ∀ name ∈ enums, name ∉ constants) :
    (imports ++ constants ++ [objectName] ++ enums).Nodup ↔ objectName ∉ imports ∧
      objectName ∉ constants ∧ objectName ∉ enums ∧ ∀ name ∈ enums, name ∉ imports := by
  simp only [List.nodup_append, himports, hconstants, henums, List.nodup_singleton, true_and,
    List.mem_append, List.mem_singleton]
  grind

theorem topLevelNames_nodup_iff (hobject : source.objectName = .str className)
    (htypes : ∀ e ∈ source.enums, ∃ name, e.identifier = typeName name)
    (henums : (source.enums.map (·.identifier)).Nodup) :
    ((File.ofSource options {} source).topLevelNames {}).Nodup ↔
      File.IsSpacious (escapeIdentifier className) source := by
  have himports := importedTypes_sublist source
  have himport : ∀ name ∈ importedTypes source, name ∉ versionConstant source := by
    have hcapital : ∀ word ∈ ["Boolean", "Int", "String"],
        Text.startsSmall word.toList = false := by decide
    exact fun name hname => not_mem_versionConstant (hcapital name (himports.subset hname))
  have henum : ∀ name ∈ source.enums.map (·.identifier), name ∉ versionConstant source := by
    refine List.forall_mem_map.mpr fun e he => ?_
    obtain ⟨type, htype⟩ := htypes e he
    exact not_mem_versionConstant (htype ▸ not_startsSmall_typeName type)
  rw [topLevelNames_ofSource hobject htypes, nodup_kinds_iff (himports.nodup (by decide))
    (nodup_versionConstant source) henums himport henum]
  simp only [mem_versionConstant, List.mem_map, not_and, not_exists]
  constructor
  · rintro ⟨hobjectImport, hobjectConstant, hobjectEnum, henumImport⟩
    exact ⟨hobjectImport, hobjectConstant, hobjectEnum, fun e he => henumImport _ ⟨e, he, rfl⟩⟩
  · rintro ⟨hobjectImport, hobjectConstant, hobjectEnum, henumImport⟩
    refine ⟨hobjectImport, hobjectConstant, hobjectEnum, ?_⟩
    rintro _ ⟨e, he, rfl⟩
    exact henumImport e he

end Kotlin

/-- The enumerations of a source are named after types of the schema. -/
theorem Schema.typeName_of_mem_enums {schema : Schema} {options : Options} {source : SourceFile}
    (hsource : schema.toSource options = .ok source) {e : Enumeration} (he : e ∈ source.enums) :
    ∃ t ∈ schema.types, t.stringEnum.isSome ∧ e.identifier = typeName t.name := by
  obtain ⟨t, ht, hof⟩ := Pairing.exists_left (enums_areOf hsource) he
  obtain ⟨hmem, hlists⟩ := List.mem_filter.mp ht
  exact ⟨t, hmem, hlists, hof.identifier⟩

/-- **The names at the top of a Kotlin file are all different exactly when their kinds leave each
other room.** A source without conflicts keeps each kind apart; that the object has the name of an
import, of the constant or of an enumeration, or an enumeration that of an import, is no conflict
of the source. -/
theorem Generator.file_keepsNamesApart_iff {settings : Settings} {schema : Schema}
    {source : SourceFile} {className : String} (hlanguage : settings.language = .ok [])
    (hname : settings.get "output_class_name" = .str className)
    (hsource : schema.toSource settings.options = .ok source)
    (hconflicts : source.conflicts = []) :
    ∃ g, Generator.create .kotlin settings = .ok g ∧ ∀ h, g.Reaches h →
      let file := Kotlin.File.ofSource h.options {} source
      (h.render source).1 = file.print {} h.templates ∧
      (h.generate schema).1 = file.print {} h.templates ∧
      ((file.topLevelNames {}).Nodup ↔
        Kotlin.File.IsSpacious (Kotlin.escapeIdentifier className) source) := by
  have hcreate : Generator.create .kotlin settings = .ok {
      settings, emitter := .kotlin {}, templates := .builtin Kotlin.layoutNames } :=
    create_kotlin_eq_ok.mpr ⟨[], {}, hlanguage, rfl, rfl⟩
  refine ⟨_, hcreate, fun h hreach => ?_⟩
  have hsettings : h.settings = settings := hreach.follows.settings
  have hemitter : h.emitter = .kotlin {} := hreach.follows.emitter.eq_kotlin
  have hobject : source.objectName = .str className := by
    obtain ⟨_, _, -, -, -, rfl, -⟩ := Schema.toSource_eq_ok.mp hsource
    exact hname
  have hrender : (h.render source).1 =
      (Kotlin.File.ofSource h.options {} source).print {} h.templates := by
    rw [render, hemitter]
  have hoptions : schema.toSource h.options = .ok source := by
    rw [options, hsettings]
    exact hsource
  refine ⟨hrender, ?_, ?_⟩
  · rw [← hrender, generate, hoptions]
  · obtain ⟨-, henums, -⟩ := SourceFile.conflicts_eq_nil.mp hconflicts
    refine Kotlin.topLevelNames_nodup_iff hobject (fun e he => ?_) henums
    obtain ⟨t, -, -, hidentifier⟩ := Schema.typeName_of_mem_enums hsource he
    exact ⟨t.name, hidentifier⟩

/-- A schema with a type that has the name of the object, and no others. -/
def Schema.namesake : Schema where
  projectId := "shop"
  versionNumber := 1
  events := []
  types := [{ name := "analytics_event", stringEnum := some ["opened"] }]

theorem Generator.file_keepsNamesApart_iff_namesake :
    ∃ source g, Schema.namesake.toSource Settings.default.options = .ok source ∧
      Generator.create .kotlin Settings.default = .ok g ∧ ∀ h, g.Reaches h →
        (((Kotlin.File.ofSource h.options {} source).topLevelNames {}).Nodup ↔
          Kotlin.File.IsSpacious "AnalyticsEvent" source) := by
  have hnamesake : (Schema.namesake.toSource Settings.default.options).map (·.conflicts) =
      .ok [] := rfl
  obtain ⟨source, hsource, hconflicts⟩ := Steps.map_eq_ok.mp hnamesake
  obtain ⟨g, hg, hall⟩ := file_keepsNamesApart_iff rfl rfl hsource hconflicts
  exact ⟨source, g, hsource, hg, fun h hreach => (hall h hreach).2.2⟩

/-- A source without conflicts does not always make a file without them. -/
theorem Kotlin.object_hides_enumeration : ¬ ∀ (settings : Settings) (schema : Schema)
    (source : SourceFile) (className : String), settings.language = .ok [] →
    settings.get "output_class_name" = .str className →
    schema.toSource settings.options = .ok source → source.conflicts = [] →
    ((File.ofSource settings.options {} source).topLevelNames {}).Nodup := by
  intro h
  have hnamesake : (Schema.namesake.toSource Settings.default.options).map (fun source =>
      (source.conflicts, (File.ofSource Settings.default.options {} source).topLevelNames {})) =
      .ok ([], ["String", "mammothSchemaVersion", "AnalyticsEvent", "AnalyticsEvent"]) := by
    decide +kernel
  obtain ⟨source, hsource, hfacts⟩ := Steps.map_eq_ok.mp hnamesake
  obtain ⟨hconflicts, hnames⟩ := Prod.mk.inj hfacts
  have hnodup := h Settings.default Schema.namesake source "AnalyticsEvent" rfl rfl hsource
    hconflicts
  rw [hnames] at hnodup
  exact absurd hnodup (by decide)

end TrackingPlan
