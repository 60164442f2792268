import TrackingPlan.Proofs.Settings.Completion

/-!
# Which source decides a setting

The overrides of the caller, a configuration file and the defaults of the language may all set the
same thing. A setting of the generator has the value of the first of them that sets it. The settings
of the language that stand at the top are put over the others when all sources have been joined, so
the file decides a setting that it spells at the top and the overrides do not.

Key definitions: `Settings.fileMembers`, `Settings.Hidden`, `Settings.languageValue`.
Key theorems: `Settings.exists_read_of_readFile`, `Settings.forLanguage_decides`.
-/

namespace TrackingPlan
namespace Settings

open Steps

/-! ### The settings of the language -/

section Sources

variable {inFile overrides : Assoc Json} {name : String}

/-- The setting of the language stands among the others in the overrides, and at the top in the
file. -/
def Hidden (overrides inFile : Assoc Json) (name : String) : Prop :=
  outer? overrides name = none ∧ (outer? inFile name).isSome ∧ ((inner overrides).get? name).isSome

/-- What decides a setting of the language: first the settings at the top, then the others. -/
def languageValue (overrides inFile : Assoc Json) (name : String) : Option Json :=
  ((outer? overrides name).or (outer? inFile name)).or
    (((inner overrides).get? name).or ((inner inFile).get? name))

/-- Unless a setting is hidden, the overrides decide it, and the file where they do not set it. -/
theorem languageValue_of_not_hidden (h : ¬ Hidden overrides inFile name) :
    languageValue overrides inFile name =
      (languageSetting? overrides name).or (languageSetting? inFile name) := by
  unfold Hidden at h
  unfold languageValue languageSetting?
  cases houter : outer? overrides name with
  | some v => rfl
  | none =>
    cases hfile : outer? inFile name with
    | none => rfl
    | some v =>
      cases hinner : (inner overrides).get? name with
      | none => rfl
      | some w => exact absurd ⟨houter, hfile ▸ rfl, hinner ▸ rfl⟩ h

end Sources

/-! ### The configuration of a language -/

section Depth

variable [d : Depths] {files : FileTree} {language file : String} {inFile overrides : Assoc Json}
  {name : String}

/-- The members that a configuration file holds; no file is named by the empty name. -/
def fileMembers (files : FileTree) (file : String) : Except ConfigError (Assoc Json) :=
  if file = "" then .ok [] else readFile files file

theorem exists_read_of_membersOfBytes {path : PathName} {data : ByteArray}
    (h : membersOfBytes path data = .ok inFile) :
    ∃ text, Json.read d.configFile text = .ok (.obj inFile) := by
  unfold membersOfBytes at h
  split at h
  · exact nomatch h
  · rename_i text _
    split at h
    · rename_i hread
      exact ⟨text, Except.ok.inj h ▸ hread⟩
    all_goals exact nomatch h

/-- The members of a configuration file are those of a JSON text. -/
theorem exists_read_of_readFile (h : readFile files file = .ok inFile) :
    ∃ text, Json.read d.configFile text = .ok (.obj inFile) := by
  unfold readFile at h
  dsimp only at h
  split at h
  · exact nomatch h
  · exact nomatch h
  · split at h
    · exact nomatch h
    · split at h
      · exact nomatch h
      · exact exists_read_of_membersOfBytes h

theorem eq_nil_or_read_of_fileMembers (h : fileMembers files file = .ok inFile) :
    inFile = [] ∨ ∃ text, Json.read d.configFile text = .ok (.obj inFile) := by
  unfold fileMembers at h
  split at h
  · exact .inl (Except.ok.inj h).symm
  · exact .inr (exists_read_of_readFile h)

theorem hasDistinctNames_of_fileMembers (h : fileMembers files file = .ok inFile) :
    (Json.obj inFile).HasDistinctNames := by
  rcases eq_nil_or_read_of_fileMembers h with rfl | ⟨text, hread⟩
  · exact .obj List.nodup_nil fun _ hp => absurd hp List.not_mem_nil
  · exact Json.hasDistinctNames_of_read hread

theorem isWritable_of_fileMembers (h : fileMembers files file = .ok inFile) :
    (Json.obj inFile).IsWritable := by
  rcases eq_nil_or_read_of_fileMembers h with rfl | ⟨text, hread⟩
  · exact Nat.zero_le _
  · exact Json.isWritable_of_read hread

/-- A configuration comes about by putting one source over the other. -/
theorem forLanguage_of_fileMembers {s : Settings} (hfile : fileMembers files file = .ok inFile) :
    forLanguage files language overrides file = .ok s ↔
      ∃ base merged, merge (languageDefaults language) inFile = .ok base ∧
        merge base overrides = .ok merged ∧ assemble merged = .ok s := by
  rw [forLanguage_eq_ok]
  refine exists_congr fun base => exists_congr fun merged => and_congr_left fun _ => ?_
  unfold fileMembers at hfile
  by_cases hname : file = ""
  · rw [if_pos hname] at hfile
    obtain rfl := Except.ok.inj hfile
    simp [hname, merge]
  · rw [if_neg hname] at hfile
    simp [hname, hfile]

/-- **The first source that sets a setting decides it.** A setting of the language that is not
hidden is decided so too; one that is hidden has its value from the file. -/
theorem forLanguage_decides (language : String) (hfile : fileMembers files file = .ok inFile)
    (hinFile : ∀ v, inFile.get? "language_config" = some v → v.kind = .object)
    (hnames : (Json.obj overrides).HasDistinctNames)
    (hoverrides : ∀ v, overrides.get? "language_config" = some v → v.kind = .object) :
    let sources := [overrides, inFile, languageDefaults language, default.entries]
    ((∃ s, forLanguage files language overrides file = .ok s) ↔
      ∃ v w, firstOf sources "conventions" = some v ∧ completed v = .ok w) ∧
    ∀ {s}, forLanguage files language overrides file = .ok s →
      ∃ settings, Decided s sources settings ∧ ∀ name,
        settings.get? name = languageValue overrides inFile name ∧
        (¬ Hidden overrides inFile name → settings.get? name =
          (languageSetting? overrides name).or (languageSetting? inFile name)) := by
  intro sources
  -- The file is put over the defaults of the language, and the overrides over both.
  obtain ⟨base, hbase, hoverBase⟩ := merge_over (isSource_defaults language)
    (.of_distinct (hasDistinctNames_of_fileMembers hfile) hinFile)
  obtain ⟨merged, hmerged, hover⟩ := merge_over hoverBase.source (.of_distinct hnames hoverrides)
  have hfirst {name : String} (hname : name ≠ "language_config") :
      firstOf [merged, default.entries] name = firstOf sources name := by
    simp only [sources, firstOf, List.findSome?_cons, hover.value hname, hoverBase.value hname]
    cases overrides.get? name <;> cases inFile.get? name <;> rfl
  have hmade {s : Settings} : forLanguage files language overrides file = .ok s ↔
      assemble merged = .ok s := by
    simp only [forLanguage_of_fileMembers hfile, hbase, hmerged, Except.ok.injEq,
      exists_and_left, exists_eq_left']
  refine ⟨?_, fun {s} hs => ?_⟩
  · simp only [hmade]
    rw [exists_assemble_iff hover.source, hfirst (by decide)]
  · have hdecided := decided_of_assemble hover.source (hmade.mp hs)
    have hlanguage (name : String) :
        (languageSettings merged).get? name = languageValue overrides inFile name := by
      rw [get?_languageSettings hover.source, languageSetting?, hover.outer?, hoverBase.outer?,
        outer?_defaults, hover.inner, hoverBase.inner, inner_defaults, Assoc.get?_nil,
        Option.or_none, Option.or_none, languageValue]
    refine ⟨languageSettings merged, ⟨fun hname hconventions hother => ?_, ?_, hdecided.language⟩,
      fun name => ⟨hlanguage name, fun hshown => ?_⟩⟩
    · exact (hdecided.value hname hconventions hother).trans (hfirst hother)
    · have hconventions : firstOf [merged, default.entries] "conventions" =
          firstOf sources "conventions" := hfirst (by decide)
      exact hconventions ▸ hdecided.conventions
    · exact (hlanguage name).trans (languageValue_of_not_hidden hshown)

end Depth

/-- A configuration file that spells settings of the language in both ways. -/
def levelsFile : FileTree where
  files := [(["levels.json"],
    ("\x7b\"package_name\": \"shop\", \"level\": 1, " ++
      "\"language_config\": \x7b\"depth\": 3\x7d\x7d").toUTF8)]

theorem levels_read : let _ : Depths := .uniform 2
    fileMembers levelsFile "levels.json" = .ok [("package_name", .str "shop"), ("level", .int 1),
      ("language_config", .obj [("depth", .int 3)])] := by
  decide +kernel

/-- Overrides that spell a setting of the language at the top, and another one among the others. -/
def levelOverrides : Assoc Json :=
  [("language_config", .obj [("depth", .int 4)]), ("level", .int 2)]

theorem forLanguage_decides_levels : ∃ _ : Depths, ∃ s settings,
    forLanguage levelsFile "kotlin" levelOverrides "levels.json" = .ok s ∧
      s.language = .ok settings ∧ s.entries.get? "package_name" = some (.str "shop") ∧
      settings.get? "level" = some (.int 2) ∧ settings.get? "depth" = some (.int 4) := by
  have hnames : (Json.obj levelOverrides).HasDistinctNames := by
    refine .obj (by decide) (List.forall_mem_cons.mpr ⟨.obj (by decide) ?_,
      List.forall_mem_singleton.mpr (.int 2)⟩)
    exact List.forall_mem_singleton.mpr (.int 4)
  let d : Depths := .uniform 2
  obtain ⟨hmade, hdecides⟩ := forLanguage_decides "kotlin" levels_read
    (fun v hv => Option.some.inj hv ▸ rfl) hnames (fun v hv => Option.some.inj hv ▸ rfl)
  obtain ⟨s, hs⟩ := hmade.mpr ⟨_, _, rfl, rfl⟩
  obtain ⟨settings, hdecided, hvalue⟩ := hdecides hs
  refine ⟨d, s, settings, hs, hdecided.language, ?_, (hvalue "level").1, (hvalue "depth").1⟩
  exact hdecided.value (by decide) (by decide) (by decide)

/-- The overrides do not always decide a setting of the language that they hold. -/
theorem file_hides_override : ¬ ∀ [Depths] (files : FileTree) (language file : String)
    (inFile overrides : Assoc Json) (s : Settings) (settings : Assoc Json),
    fileMembers files file = .ok inFile →
    (∀ v, inFile.get? "language_config" = some v → v.kind = .object) →
    (Json.obj overrides).HasDistinctNames →
    (∀ v, overrides.get? "language_config" = some v → v.kind = .object) →
    forLanguage files language overrides file = .ok s → s.language = .ok settings →
    ∀ name, settings.get? name =
      (languageSetting? overrides name).or (languageSetting? inFile name) := by
  intro h
  have hnames : (Json.obj [("language_config", .obj [("level", .int 2)])]).HasDistinctNames :=
    .obj (by decide) (List.forall_mem_singleton.mpr
      (.obj (by decide) (List.forall_mem_singleton.mpr (.int 2))))
  let d : Depths := .uniform 2
  have hlanguage : (forLanguage levelsFile "kotlin"
      [("language_config", .obj [("level", .int 2)])] "levels.json").bind Settings.language =
        .ok [("depth", .int 3), ("level", .int 1)] := by
    decide +kernel
  obtain ⟨s, hs, hsettings⟩ := bind_eq_ok.mp hlanguage
  have hlevel := h _ _ _ _ _ s _ levels_read (fun v hv => Option.some.inj hv ▸ rfl) hnames
    (fun v hv => Option.some.inj hv ▸ rfl) hs hsettings "level"
  exact absurd hlevel (by decide)

end Settings
end TrackingPlan
