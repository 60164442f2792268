import TrackingPlan.Proofs.Assoc
import TrackingPlan.Proofs.Files.Tree
import TrackingPlan.Proofs.Json.RoundTrip
import TrackingPlan.Proofs.Json.Written
import TrackingPlan.Settings.Store

/-!
# Configurations that are kept and read back

A configuration always has all its settings in their order, and complete conventions when these
are an object. So when it is put over the defaults of any language nothing of the defaults is
left, and what comes out is the configuration again. Together with the text that is read back and
the file that holds it, keeping a configuration loses nothing.

Key definitions: `Settings.Complete`, `Settings.IsPlain`, `Settings.WithinLimits`.
Key theorems: `Settings.complete_of_forLanguage`, `Settings.merge_eq_update`,
`Settings.assemble_of_complete`, `Settings.readFile_of_save`, `Settings.save_reload`.
-/

namespace TrackingPlan
namespace Settings

open Steps

/-- The names of all settings, in order. -/
def names : List String := default.entries.keys

theorem nodup_names : names.Nodup := by decide

/-! ### Conventions -/

/-- The names of all conventions, in order. -/
def conventionNames : List String := ({} : Conventions).members.keys

theorem nodup_conventionNames : conventionNames.Nodup := by decide

/-- What the conventions of a configuration look like. -/
structure CompleteConventions (members : Assoc Json) : Prop where
  keys : members.keys = conventionNames
  defaulted : ∃ items, members.get? "defaulted_parameters" = some (.arr items)

theorem complete_default : CompleteConventions ({} : Conventions).members := ⟨rfl, _, rfl⟩

variable {members c : Assoc Json}

/-- How the conventions are made that an object sets. -/
theorem conventions_eq_ok : conventions members = .ok c ↔ members.keys ⊆ conventionNames ∧
    ((members.get? "defaulted_parameters" = none ∧ c = ({} : Conventions).members.update members) ∨
      ∃ v items, members.get? "defaulted_parameters" = some v ∧ v.elements? = some items ∧
        c = (({} : Conventions).members.update members).set "defaulted_parameters" (.arr items)) := by
  have hknown : members.keys.filter (fun k => !({} : Conventions).members.has k) = [] ↔
      members.keys ⊆ conventionNames := by
    simp only [List.filter_eq_nil_iff, Bool.not_eq_true', Bool.not_eq_false, Assoc.has_iff]
    rfl
  unfold conventions
  by_cases hsubset : members.keys ⊆ conventionNames
  · simp only [hknown.mpr hsubset, hsubset, true_and]
    cases members.get? "defaulted_parameters" with
    | none => simp [eq_comm]
    | some v => cases hitems : v.elements? <;> simp [hitems, eq_comm]
  · simp only [hsubset, false_and, iff_false]
    split
    · rename_i hnil
      exact absurd (hknown.mp hnil) hsubset
    · exact fun h => nomatch h

/-- The conventions that an object sets are complete. -/
theorem complete_of_conventions (h : conventions members = .ok c) : CompleteConventions c := by
  obtain ⟨hsubset, hcases⟩ := conventions_eq_ok.mp h
  have hkeys : (({} : Conventions).members.update members).keys = conventionNames :=
    Assoc.keys_update hsubset
  rcases hcases with ⟨hnone, rfl⟩ | ⟨v, items, -, -, rfl⟩
  · have hdefaulted := Assoc.get?_update_of_not_mem (t := ({} : Conventions).members)
      (Assoc.get?_eq_none.mp hnone)
    exact ⟨hkeys, _, hdefaulted⟩
  · refine ⟨?_, items, by rw [Assoc.get?_set, if_pos rfl]⟩
    rw [Assoc.keys_set, hkeys]
    rfl

/-- Complete conventions are the conventions that they set. -/
theorem conventions_of_complete (h : CompleteConventions c) : conventions c = .ok c := by
  obtain ⟨items, hitems⟩ := h.defaulted
  have hnodup : c.keys.Nodup := h.keys ▸ nodup_conventionNames
  have hupdate : ({} : Conventions).members.update c = c :=
    Assoc.update_eq h.keys.symm hnodup hnodup (List.Subset.refl _) fun _ _ => rfl
  refine conventions_eq_ok.mpr ⟨fun _ hname => h.keys ▸ hname, .inr ⟨_, items, hitems, rfl, ?_⟩⟩
  rw [hupdate, Assoc.set_eq_self hnodup hitems]

/-! ### Complete configurations -/

/-- A configuration has all settings in their order, and complete conventions, if they are an
object. -/
structure Complete (s : Settings) : Prop where
  keys : s.entries.keys = names
  conventions : ∀ {members}, s.get "conventions" = .obj members → CompleteConventions members

variable {s t : Settings} {base known unknown out : Assoc Json}

/-- The settings of the language go to their own place. -/
theorem entries_of_languageEntry (h : languageEntry known unknown = .ok t) :
    t.entries = known ∨ ∃ v, t.entries = known.set "language_config" v := by
  unfold languageEntry at h
  split at h
  · exact .inl (congrArg entries (Except.ok.inj h)).symm
  · split at h
    · exact nomatch h
    · exact .inr ⟨_, (congrArg entries (Except.ok.inj h)).symm⟩

/-- How a configuration is made complete. -/
theorem assemble_eq_ok : assemble members = .ok s ↔
    ∃ t, languageEntry (members.filter fun p => default.entries.has p.1)
        (members.filter fun p => !default.entries.has p.1) = .ok t ∧
      ((∃ c c', t.entries.get? "conventions" = some (.obj c) ∧ Settings.conventions c = .ok c' ∧
          s = { t with entries := default.entries.update (t.entries.set "conventions" (.obj c')) }) ∨
        (∀ c, t.entries.get? "conventions" ≠ some (.obj c)) ∧
          s = { t with entries := default.entries.update t.entries }) := by
  simp only [assemble, bind_eq_ok]
  refine exists_congr fun t => and_congr_right fun _ => ?_
  split
  · rename_i c hc
    simp only [bind_eq_ok, pure_eq_ok, hc]
    simp [eq_comm]
  · rename_i hother
    simp only [pure_eq_ok]
    constructor
    · exact fun h => .inr ⟨hother, h.symm⟩
    · rintro (⟨c, _, hc, -, -⟩ | ⟨-, rfl⟩)
      · exact absurd hc (hother c)
      · rfl

/-- Settings that are known have the names of settings. -/
theorem keys_known_subset (members : Assoc Json) :
    Assoc.keys (members.filter fun p => default.entries.has p.1) ⊆ names := by
  intro name hname
  obtain ⟨p, hp, rfl⟩ := List.mem_map.mp hname
  exact Assoc.has_iff.mp (List.mem_filter.mp hp).2

/-- **What is made complete is complete.** -/
theorem complete_of_assemble (hnodup : members.keys.Nodup) (h : assemble members = .ok s) :
    s.Complete := by
  obtain ⟨t, hentry, hcases⟩ := assemble_eq_ok.mp h
  have hentries : t.entries.keys.Nodup ∧ t.entries.keys ⊆ names := by
    have hknown := Assoc.nodup_filter hnodup fun p => default.entries.has p.1
    rcases entries_of_languageEntry hentry with heq | ⟨v, heq⟩
    · exact heq ▸ ⟨hknown, keys_known_subset members⟩
    · rw [heq]
      exact ⟨Assoc.nodup_set hknown _ v,
        Assoc.subset_keys_set (keys_known_subset members) (by decide) v⟩
  rcases hcases with ⟨c, c', -, hc, rfl⟩ | ⟨hother, rfl⟩
  · have hset : (t.entries.set "conventions" (.obj c')).keys.Nodup := Assoc.nodup_set hentries.1 _ _
    refine ⟨Assoc.keys_update (Assoc.subset_keys_set hentries.2 (by decide) _), fun hmembers => ?_⟩
    rw [get, Json.member, Assoc.get?_update hset, Assoc.get?_set, if_pos rfl] at hmembers
    obtain rfl := Json.obj.inj hmembers
    exact complete_of_conventions hc
  · refine ⟨Assoc.keys_update hentries.2, fun {members} hmembers => ?_⟩
    rw [get, Json.member, Assoc.get?_update hentries.1] at hmembers
    cases hget : t.entries.get? "conventions" with
    | none =>
      rw [hget] at hmembers
      obtain rfl := Json.obj.inj hmembers
      exact complete_default
    | some v =>
      rw [hget] at hmembers
      have hv : v = .obj members := hmembers
      exact absurd (hv ▸ hget) (hother members)

/-- A configuration that is complete is put together from any members that say the same. -/
theorem assemble_of_complete (h : s.Complete) (htable : s.languageTable = none)
    (hnodup : members.keys.Nodup) (hsubset : members.keys ⊆ names)
    (hget : ∀ name ∈ names, members.get? name = s.entries.get? name) :
    assemble members = .ok s := by
  -- Every member is a setting, so nothing is left over for the language.
  have hknown : ∀ p ∈ members, default.entries.has p.1 := fun p hp =>
    Assoc.has_iff.mpr (hsubset (List.mem_map_of_mem hp))
  have hall : members.filter (fun p => default.entries.has p.1) = members :=
    List.filter_eq_self.mpr hknown
  have hnone : members.filter (fun p => !default.entries.has p.1) = [] :=
    List.filter_eq_nil_iff.mpr fun p hp => by simp [hknown p hp]
  have hentries {u : Assoc Json} (hu : u.keys.Nodup) (hsub : u.keys ⊆ names)
      (huget : ∀ name ∈ names, u.get? name = s.entries.get? name) :
      default.entries.update u = s.entries :=
    Assoc.update_eq h.keys.symm (h.keys ▸ nodup_names) hu (h.keys ▸ hsub) (h.keys ▸ huget)
  refine assemble_eq_ok.mpr ⟨⟨members, none⟩, by rw [hall, hnone]; rfl, ?_⟩
  have hconventions := hget "conventions" (by decide)
  by_cases hobject : ∃ c, members.get? "conventions" = some (.obj c)
  · obtain ⟨c, hc⟩ := hobject
    have hcomplete : CompleteConventions c := h.conventions (by
      rw [get, Json.member, ← hconventions, hc]
      rfl)
    refine .inl ⟨c, c, hc, conventions_of_complete hcomplete, ?_⟩
    rw [Assoc.set_eq_self hnodup hc, hentries hnodup hsubset hget, ← htable]
  · refine .inr ⟨fun c hc => hobject ⟨c, hc⟩, ?_⟩
    rw [hentries hnodup hsubset hget, ← htable]

/-! ### One configuration over another -/

theorem exists_set_of_mergeOne {key : String} {value : Json}
    (h : mergeOne base key value = .ok out) : ∃ v, out = base.set key v := by
  unfold mergeOne at h
  split at h
  · split at h
    · split at h
      · exact ⟨_, (Except.ok.inj h).symm⟩
      · exact ⟨_, (Except.ok.inj h).symm⟩
      · exact nomatch h
    · exact ⟨_, (Except.ok.inj h).symm⟩
  · exact ⟨_, (Except.ok.inj h).symm⟩

theorem nodup_merge : ∀ {members base : Assoc Json}, base.keys.Nodup →
    merge base members = .ok out → out.keys.Nodup
  | [], base, hbase, h => Except.ok.inj h ▸ hbase
  | (key, value) :: rest, base, hbase, h => by
    simp only [merge, bind_eq_ok] at h
    obtain ⟨next, hnext, hrest⟩ := h
    obtain ⟨v, rfl⟩ := exists_set_of_mergeOne hnext
    exact nodup_merge (Assoc.nodup_set hbase key v) hrest

/-- The defaults say nothing about the language. -/
def SilentOnLanguage (base : Assoc Json) : Prop :=
  base.get? "language_config" = none ∨ base.get? "language_config" = some (.obj [])

theorem mergeOne_eq_set {key : String} {value : Json} (hvalue : value.isPlain)
    (hsilent : key = "language_config" → SilentOnLanguage base) :
    mergeOne base key value = .ok (base.set key value) := by
  unfold mergeOne
  split
  · rename_i language
    have hnodup : (Assoc.keys language).Nodup := by
      have hplain := hvalue
      rw [Json.isPlain, Bool.and_eq_true, decide_eq_true_eq] at hplain
      exact hplain.1
    split
    · rename_i hkey
      subst hkey
      rcases hsilent rfl with hnone | hempty
      · rw [hnone]
      · rw [hempty]
        show Except.ok (base.set "language_config" (.obj (Assoc.ofPairs language))) = _
        rw [Assoc.ofPairs_eq hnodup]
    · rfl
  · rfl

/-- Over defaults that say nothing about the language a configuration simply takes its place. -/
theorem merge_eq_update : ∀ {members base : Assoc Json}, members.keys.Nodup →
    (∀ p ∈ members, p.2.isPlain) →
    ("language_config" ∈ members.keys → SilentOnLanguage base) →
    merge base members = .ok (base.update members)
  | [], _, _, _, _ => rfl
  | (key, value) :: rest, base, hnodup, hplain, hsilent => by
    obtain ⟨hfresh, hnodup⟩ := List.nodup_cons.mp hnodup
    have hone : mergeOne base key value = .ok (base.set key value) :=
      mergeOne_eq_set (hplain _ List.mem_cons_self) fun hkey => hsilent (hkey ▸ List.mem_cons_self)
    have hrest : merge (base.set key value) rest = .ok ((base.set key value).update rest) := by
      refine merge_eq_update hnodup (fun p hp => hplain p (List.mem_cons_of_mem _ hp)) ?_
      intro hlanguage
      have hother : ¬ "language_config" = key := fun heq => hfresh (heq ▸ hlanguage)
      rw [SilentOnLanguage, Assoc.get?_set, if_neg hother]
      exact hsilent (List.mem_cons_of_mem _ hlanguage)
    rw [merge, hone]
    exact hrest

/-- The defaults of every language are settings, each of them once, and silent on the language. -/
theorem languageDefaults_facts (language : String) : (languageDefaults language).keys.Nodup ∧
    (languageDefaults language).keys ⊆ names ∧ SilentOnLanguage (languageDefaults language) := by
  unfold languageDefaults
  rw [defaultsByLanguage, Assoc.get?_cons, Assoc.get?_cons, Assoc.get?_nil]
  split
  · exact ⟨by decide, by decide, .inr rfl⟩
  · split
    · exact ⟨by decide, by decide, .inr rfl⟩
    · exact ⟨List.nodup_nil, List.nil_subset _, .inl rfl⟩

/-! ### Settings that JSON gives back -/

/-- All values are built without doubles, and the settings of the language have texts as their
names. -/
structure IsPlain (s : Settings) : Prop where
  entries : ∀ p ∈ s.entries, p.2.isPlain
  language : s.languageTable = none

theorem areMembersPlain_iff {members : List (String × Json)} :
    Json.areMembersPlain members ↔ ∀ p ∈ members, p.2.isPlain := by
  induction members with
  | nil => simp [Json.areMembersPlain]
  | cons p rest ih =>
    obtain ⟨_, v⟩ := p
    rw [Json.areMembersPlain, Bool.and_eq_true, ih]
    simp

theorem fromUTF8?_toUTF8 (text : String) : String.fromUTF8? text.toUTF8 = some text := by
  rw [String.fromUTF8?, String.toUTF8_eq_toByteArray, dif_pos text.isValidUTF8]
  rfl

section Depth

variable [d : Depths] {files after : FileTree} {language : String} {overrides : Assoc Json}
  {file name : String}

/-! ### The configuration of a language -/

/-- How the configuration of a language comes about. -/
theorem forLanguage_eq_ok : forLanguage files language overrides file = .ok s ↔
    ∃ base merged, (file = "" ∧ languageDefaults language = base ∨ file ≠ "" ∧
        ∃ members, readFile files file = .ok members ∧
          merge (languageDefaults language) members = .ok base) ∧
      merge base overrides = .ok merged ∧ assemble merged = .ok s := by
  unfold forLanguage
  by_cases hfile : file = ""
  · simp [hfile]
  · simp only [hfile, if_false, bind_eq_ok, false_and, false_or, ne_eq, not_false_eq_true, true_and]
    constructor
    · rintro ⟨read, hread, base, hbase, merged, hmerged, hassemble⟩
      exact ⟨base, merged, ⟨read, hread, hbase⟩, hmerged, hassemble⟩
    · rintro ⟨base, merged, ⟨read, hread, hbase⟩, hmerged, hassemble⟩
      exact ⟨read, hread, base, hbase, merged, hmerged, hassemble⟩

/-- **Every configuration of a language is complete.** -/
theorem complete_of_forLanguage (h : forLanguage files language overrides file = .ok s) :
    s.Complete := by
  obtain ⟨base, merged, hbase, hmerged, hassemble⟩ := forLanguage_eq_ok.mp h
  have hdefaults := (languageDefaults_facts language).1
  have hnodup : base.keys.Nodup := by
    rcases hbase with ⟨-, rfl⟩ | ⟨-, read, -, hmerge⟩
    · exact hdefaults
    · exact nodup_merge hdefaults hmerge
  exact complete_of_assemble (nodup_merge hnodup hmerged) hassemble

/-! ### Keeping a configuration and reading it back -/

/-- The configuration is not too deep and its integers are not too long to be kept. -/
structure WithinLimits (s : Settings) : Prop where
  depth : (Json.obj s.entries).depth ≤ d.keptConfig
  longest : s.longestInteger ≤ maxIntegerDigits

/-- How a configuration is kept. -/
theorem save_eq_ok : s.save files name = .ok after ↔
    (∃ members, s.get "conventions" = .obj members) ∧ s.WithinLimits ∧
      files.write (PathName.ofString name) s.fileText.toUTF8 = .ok after := by
  have hlimits : s.WithinLimits ↔ ¬ d.keptConfig < (Json.obj s.entries).depth ∧
      ¬ maxIntegerDigits < s.longestInteger := by
    rw [Nat.not_lt, Nat.not_lt]
    exact ⟨fun h => ⟨h.depth, h.longest⟩, fun h => ⟨h.1, h.2⟩⟩
  unfold save
  dsimp only
  rw [hlimits]
  cases s.get "conventions" with
  | obj members =>
    by_cases hdepth : d.keptConfig < (Json.obj s.entries).depth
    · simp [hdepth]
    · cases files.write (PathName.ofString name) s.fileText.toUTF8 with
      | error fault => cases fault <;> simp [hdepth]
      | ok written =>
        by_cases hlongest : maxIntegerDigits < s.longestInteger
        · simp [hdepth, hlongest]
        · simp [hdepth, hlongest]
  | _ => simp

/-- The text of a configuration is read as its settings. -/
theorem read_fileText (hdepths : d.Reloads) (h : s.Complete) (hplain : s.IsPlain)
    (hlimits : s.WithinLimits) : Json.read d.configFile s.fileText = .ok (.obj s.entries) := by
  have hlongest := Nat.le_trans (Nat.le_max_left _ _) hlimits.longest
  refine Json.read_pretty ⟨?_, Nat.le_trans hlimits.depth hdepths, hlongest⟩
  have hnodup : s.entries.keys.Nodup := h.keys ▸ nodup_names
  rw [Json.isPlain, decide_eq_true hnodup, areMembersPlain_iff.mpr hplain.entries]
  rfl

/-- A file in which a configuration was kept holds its settings. -/
theorem readFile_of_save (hdepths : d.Reloads) (h : s.Complete) (hplain : s.IsPlain)
    (hname : Text.lowercase (PathName.ofString name).suffix = ".json")
    (hsave : s.save files name = .ok after) : readFile after name = .ok s.entries := by
  obtain ⟨-, hlimits, hwrite⟩ := save_eq_ok.mp hsave
  have hmembers (path : PathName) : membersOfBytes path s.fileText.toUTF8 = .ok s.entries := by
    simp only [membersOfBytes, fromUTF8?_toUTF8, read_fileText hdepths h hplain hlimits]
  unfold readFile
  simp only [FileTree.has_of_write hwrite, FileTree.read_of_write hwrite, hmembers]
  exact if_neg (not_not.mpr hname)

/-- **Keeping a configuration loses nothing**: a configuration without doubles that was kept in a
JSON file is read back from it for every language, and where a file can be written it is kept
exactly when it is within the limits. -/
theorem save_reload {before : FileTree} (hdepths : d.Reloads)
    (h : forLanguage before language overrides file = .ok s) (hplain : s.IsPlain)
    (hname : Text.lowercase (PathName.ofString name).suffix = ".json")
    (hconventions : ∃ members, s.get "conventions" = .obj members) :
    (∀ {after}, s.save files name = .ok after → ∀ language,
      forLanguage after language [] name = .ok s) ∧
    (files.Writable (PathName.ofString name) →
      (s.WithinLimits ↔ ∃ after, s.save files name = .ok after)) := by
  have hcomplete := complete_of_forLanguage h
  constructor
  · intro after hsave language
    have hread := readFile_of_save hdepths hcomplete hplain hname hsave
    have hnonempty : name ≠ "" := by
      rintro rfl
      exact absurd hname (by decide)
    obtain ⟨hnodup, hsubset, hsilent⟩ := languageDefaults_facts language
    have hentries : s.entries.keys.Nodup := hcomplete.keys ▸ nodup_names
    -- The file sets everything, so the defaults of this language do not show.
    have hmerge := merge_eq_update hentries hplain.entries fun _ => hsilent
    refine forLanguage_eq_ok.mpr ⟨_, _, .inr ⟨hnonempty, _, hread, hmerge⟩, rfl, ?_⟩
    refine assemble_of_complete hcomplete hplain.language (Assoc.nodup_update hnodup _)
      (Assoc.subset_keys_update hsubset (hcomplete.keys ▸ List.Subset.refl _)) fun name hname => ?_
    obtain ⟨v, hv⟩ := Assoc.exists_get? (hcomplete.keys ▸ hname : name ∈ s.entries.keys)
    rw [Assoc.get?_update hentries, hv]
    rfl
  · intro hwritable
    constructor
    · intro hlimits
      obtain ⟨after, hwrite⟩ := FileTree.exists_write hwritable s.fileText.toUTF8
      exact ⟨after, save_eq_ok.mpr ⟨hconventions, hlimits, hwrite⟩⟩
    · rintro ⟨after, hsave⟩
      exact (save_eq_ok.mp hsave).2.1

end Depth

/-- Overrides with texts that have to be escaped, and settings of the language with other values
in them. -/
def awkwardOverrides : Assoc Json := [
  ("output_class_name", .str "Ereignis\t\"Über\\größe\"\x01"),
  ("conventions", .obj [("defaulted_parameters", .arr [.str "user"])]),
  ("levels", .arr [.int (-12), .null, .obj [("on", .bool true), ("none", .arr [])]])]

/-- They are kept and read back. -/
theorem save_reload_awkward : ∃ d : Depths, d.Reloads ∧ ∃ s after,
    forLanguage {} "kotlin" awkwardOverrides = .ok s ∧ s.save {} "kept.json" = .ok after ∧
    ∀ language, forLanguage after language [] "kept.json" = .ok s := by
  let d : Depths := .uniform 5
  have hdepths : d.Reloads := Nat.le_refl 5
  have hcheck : (forLanguage {} "kotlin" awkwardOverrides).map (fun s =>
      (s.entries.all (·.2.isPlain) && s.languageTable.isNone,
        decide ((Json.obj s.entries).depth ≤ 5) && decide (s.longestInteger ≤ maxIntegerDigits),
        (s.get "conventions").kind)) = .ok (true, true, .object) := by
    decide +kernel
  obtain ⟨s, hs, hfacts⟩ := map_eq_ok.mp hcheck
  simp only [Prod.mk.injEq, Bool.and_eq_true, List.all_eq_true, Option.isNone_iff_eq_none,
    decide_eq_true_eq] at hfacts
  obtain ⟨⟨hplain, htable⟩, ⟨hdepth, hlongest⟩, hkind⟩ := hfacts
  have hconventions : ∃ members, s.get "conventions" = .obj members := by
    cases hget : s.get "conventions" with
    | obj members => exact ⟨members, rfl⟩
    | _ => simp [hget, Json.kind] at hkind
  have hwritable : FileTree.Writable {} (PathName.ofString "kept.json") :=
    ⟨["kept.json"], by decide +kernel, by decide +kernel⟩
  have hname : Text.lowercase (PathName.ofString "kept.json").suffix = ".json" := by decide +kernel
  obtain ⟨hreload, hsave⟩ := save_reload hdepths hs ⟨hplain, htable⟩ hname hconventions
  obtain ⟨after, hafter⟩ := (hsave hwritable).mp ⟨hdepth, hlongest⟩
  exact ⟨d, hdepths, s, after, hs, hafter, hreload hafter⟩

/-- The configuration of Kotlin with one more setting, an integer. -/
def leveled (n : Int) : Settings where
  entries := (default.entries.set "output_file" (.str "MammothEvents.kt")).set "language_config"
    (.obj [("level", .int n)])

theorem isPlain_leveled (n : Int) : (leveled n).IsPlain :=
  ⟨List.all_eq_true.mp (rfl : (leveled n).entries.all (·.2.isPlain) = true), rfl⟩

/-- A configuration with an integer that has no text is not kept, though the file can be written. -/
theorem not_saved_long : ∃ d : Depths, d.Reloads ∧ ∃ s,
    forLanguage {} "kotlin" [("level", .int longInteger)] = .ok s ∧ s.IsPlain ∧
    (∃ members, s.get "conventions" = .obj members) ∧
    FileTree.Writable {} (PathName.ofString "kept.json") ∧
    ∀ after, s.save {} "kept.json" ≠ .ok after := by
  let d : Depths := .uniform 5
  refine ⟨d, Nat.le_refl 5, leveled longInteger, rfl, isPlain_leveled _, ⟨_, rfl⟩,
    ⟨["kept.json"], by decide +kernel, by decide +kernel⟩, fun after hsave => ?_⟩
  have hlimits := (save_eq_ok.mp hsave).2.1
  have hentries : Json.IsWritable (.obj (leveled longInteger).entries) :=
    Nat.le_trans (Nat.le_max_left _ _) hlimits.longest
  have hlanguage : Json.IsWritable (.obj [("level", .int longInteger)]) :=
    Json.isWritable_obj_iff.mp hentries ("language_config", _) (Assoc.mem_of_get? rfl)
  have hlevel : Json.IsWritable (.int longInteger) :=
    Json.isWritable_obj_iff.mp hlanguage ("level", _) List.mem_cons_self
  exact absurd hlevel (Nat.not_le.mpr (integerText?_eq_none.mp integerText?_longInteger))

end Settings
end TrackingPlan
