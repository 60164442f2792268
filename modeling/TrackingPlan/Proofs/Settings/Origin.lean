import TrackingPlan.Proofs.Settings.Precedence

/-!
# Where the value of a setting comes from

Putting one source over another joins the settings of the language and replaces everything else.
So whatever stands under `language_config`, every other setting but the conventions has the value
of the first source that sets it.

Key theorems: `Settings.get?_merge`, `Settings.get?_assemble`, `Settings.get?_forLanguage`.
-/

namespace TrackingPlan
namespace Settings

open Steps

variable {base top out members : Assoc Json} {s : Settings} {name : String}

theorem mergeOne_get? {key : String} {value : Json} (h : mergeOne base key value = .ok out)
    (hname : name ≠ "language_config") :
    out.get? name = if name = key then some value else base.get? name := by
  by_cases hkey : key = "language_config"
  · obtain ⟨v, rfl⟩ := exists_set_of_mergeOne h
    have hother : name ≠ key := fun heq => hname (heq.trans hkey)
    rw [Assoc.get?_set, if_neg hother, if_neg hother]
  · rw [mergeOne_other hkey] at h
    obtain rfl := Except.ok.inj h
    rw [Assoc.get?_set]

/-- The source on top decides what it sets. -/
theorem get?_merge : ∀ {top base : Assoc Json}, top.keys.Nodup → merge base top = .ok out →
    name ≠ "language_config" → out.get? name = (top.get? name).or (base.get? name)
  | [], base, _, h, _ => by
    obtain rfl := Except.ok.inj h
    rfl
  | (key, value) :: rest, base, hnodup, h, hname => by
    obtain ⟨hfresh, hnodup⟩ := List.nodup_cons.mp hnodup
    simp only [merge, bind_eq_ok] at h
    obtain ⟨next, hnext, hrest⟩ := h
    rw [get?_merge hnodup hrest hname, mergeOne_get? hnext hname, Assoc.get?_cons]
    by_cases hkey : name = key
    · have hnone : Assoc.get? rest name = none := Assoc.get?_eq_none.mpr (hkey ▸ hfresh)
      rw [if_pos hkey, if_pos hkey, hnone]
      rfl
    · rw [if_neg hkey, if_neg hkey]

/-- A setting that no source sets has its default. -/
theorem get?_assemble (hnodup : members.keys.Nodup) (h : assemble members = .ok s)
    (hname : name ∈ names) (hconventions : name ≠ "conventions")
    (hlanguage : name ≠ "language_config") :
    s.entries.get? name = (members.get? name).or (default.entries.get? name) := by
  obtain ⟨t, hentry, hcases⟩ := assemble_eq_ok.mp h
  have hknown : (known members).keys.Nodup := Assoc.nodup_filter hnodup _
  -- The settings of the language go to their own place, which is another one.
  have hsame : t.entries.keys.Nodup ∧ t.entries.get? name = members.get? name := by
    have hget : (known members).get? name = members.get? name := get?_known hname
    rcases entries_of_languageEntry hentry with heq | ⟨v, heq⟩
    · rw [heq]
      exact ⟨hknown, hget⟩
    · rw [heq, Assoc.get?_set, if_neg hlanguage]
      exact ⟨Assoc.nodup_set hknown _ v, hget⟩
  rcases hcases with ⟨c, c', -, -, rfl⟩ | ⟨-, rfl⟩
  · rw [Assoc.get?_update (Assoc.nodup_set hsame.1 _ _), Assoc.get?_set, if_neg hconventions,
      hsame.2]
  · rw [Assoc.get?_update hsame.1, hsame.2]

variable [Depths] {overrides inFile : Assoc Json} {files : FileTree} {language file : String}

theorem nodup_fileMembers (h : fileMembers files file = .ok inFile) : inFile.keys.Nodup :=
  (hasDistinctNames_of_fileMembers h).nodup

/-- A configuration comes about only when its file can be read. -/
theorem exists_fileMembers (h : forLanguage files language overrides file = .ok s) :
    ∃ inFile, fileMembers files file = .ok inFile := by
  obtain ⟨base, merged, hbase, -, -⟩ := forLanguage_eq_ok.mp h
  unfold fileMembers
  by_cases hfile : file = ""
  · rw [if_pos hfile]
    exact ⟨[], rfl⟩
  · rw [if_neg hfile]
    rcases hbase with ⟨hnone, -⟩ | ⟨-, members, hread, -⟩
    · exact absurd hnone hfile
    · exact ⟨members, hread⟩

/-- **A setting has the value of the first source that sets it.** -/
theorem get?_forLanguage (hfile : fileMembers files file = .ok inFile)
    (hoverrides : overrides.keys.Nodup) (h : forLanguage files language overrides file = .ok s)
    (hname : name ∈ names) (hconventions : name ≠ "conventions")
    (hlanguage : name ≠ "language_config") :
    s.entries.get? name =
      firstOf [overrides, inFile, languageDefaults language, default.entries] name := by
  obtain ⟨base, merged, hbase, hmerged, hassemble⟩ := (forLanguage_of_fileMembers hfile).mp h
  have hnodup : base.keys.Nodup := nodup_merge (languageDefaults_facts language).1 hbase
  rw [get?_assemble (nodup_merge hnodup hmerged) hassemble hname hconventions hlanguage,
    get?_merge hoverrides hmerged hlanguage, get?_merge (nodup_fileMembers hfile) hbase hlanguage]
  simp only [firstOf, List.findSome?_cons]
  cases overrides.get? name <;> cases inFile.get? name <;>
    cases (languageDefaults language).get? name <;> cases default.entries.get? name <;> rfl

end Settings
end TrackingPlan
