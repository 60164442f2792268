import TrackingPlan.Proofs.Json.Names
import TrackingPlan.Proofs.Settings.Reload

/-!
# What a source of settings sets

A source is an object whose members are settings. A setting of the language has two spellings in it:
at the top, or among the settings of the language. A source can always be put over another one: it
decides all that it sets, and the settings of the language are joined one by one.

Key definitions: `Settings.inner`, `Settings.outer?`, `Settings.languageSetting?`,
`Settings.IsSource`, `Settings.Over`.
Key theorems: `Settings.IsSource.of_distinct`, `Settings.merge_over`, `Settings.Over.outer?`.
-/

namespace TrackingPlan
namespace Settings

/-! ### What a source sets -/

/-- The settings of the language that stand under their own key. -/
def inner (source : Assoc Json) : Assoc Json :=
  match source.get? "language_config" with
  | some (.obj members) => members
  | _ => []

/-- The value that a source gives a setting of the language at the top, where no setting of the
generator has its name. -/
def outer? (source : Assoc Json) (name : String) : Option Json :=
  if name ∈ names then none else source.get? name

/-- The value that a source gives a setting of the language; the one at the top comes first. -/
def languageSetting? (source : Assoc Json) (name : String) : Option Json :=
  (outer? source name).or ((inner source).get? name)

/-- A source gives every name once, and so do the settings of the language in it. -/
structure IsSource (source : Assoc Json) : Prop where
  nodup : source.keys.Nodup
  language : ∀ {v}, source.get? "language_config" = some v →
    ∃ members : Assoc Json, v = .obj members ∧ members.keys.Nodup

/-- The first table is the second one put over the third, the settings of the language too. -/
structure Over (out top base : Assoc Json) : Prop where
  source : IsSource out
  value : ∀ {name}, name ≠ "language_config" → out.get? name = (top.get? name).or (base.get? name)
  inner : ∀ name, (inner out).get? name = ((inner top).get? name).or ((inner base).get? name)

variable {source base top out rest : Assoc Json} {key name : String} {value v : Json}

theorem IsSource.of_distinct (h : (Json.obj source).HasDistinctNames)
    (hlanguage : ∀ v, source.get? "language_config" = some v → v.kind = .object) :
    IsSource source where
  nodup := h.nodup
  language {v} hv := by
    cases v with
    | obj members => exact ⟨members, rfl, (h.of_get? hv).nodup⟩
    | _ => exact nomatch hlanguage _ hv

/-- The settings of the language are all that a source has under their key. -/
theorem IsSource.language_cases (h : IsSource source) :
    source.get? "language_config" = none ∧ Settings.inner source = [] ∨
      source.get? "language_config" = some (.obj (Settings.inner source)) := by
  unfold Settings.inner
  cases hv : source.get? "language_config" with
  | none => exact .inl ⟨rfl, rfl⟩
  | some v =>
    obtain ⟨members, rfl, -⟩ := h.language hv
    exact .inr rfl

theorem IsSource.nodup_inner (h : IsSource source) : (Settings.inner source).keys.Nodup := by
  rcases h.language_cases with ⟨-, hnone⟩ | hsome
  · exact hnone ▸ List.nodup_nil
  · obtain ⟨members, heq, hmembers⟩ := h.language hsome
    exact Json.obj.inj heq ▸ hmembers

theorem isSource_defaults (language : String) : IsSource (languageDefaults language) where
  nodup := (languageDefaults_facts language).1
  language hv := by
    rcases (languageDefaults_facts language).2.2 with hnone | hempty
    · exact absurd (hnone.symm.trans hv) (by simp)
    · exact ⟨[], (Option.some.inj (hempty.symm.trans hv)).symm, List.nodup_nil⟩

theorem inner_defaults (language : String) : Settings.inner (languageDefaults language) = [] := by
  unfold Settings.inner
  rcases (languageDefaults_facts language).2.2 with hnone | hempty
  · rw [hnone]
  · rw [hempty]

theorem outer?_defaults (language name : String) :
    outer? (languageDefaults language) name = none := by
  unfold outer?
  split
  · rfl
  · rename_i hname
    exact Assoc.get?_eq_none.mpr fun hmem => hname ((languageDefaults_facts language).2.1 hmem)

/-! ### One source over another -/

theorem inner_set_other (hkey : key ≠ "language_config") :
    Settings.inner (base.set key value) = Settings.inner base := by
  rw [Settings.inner, Settings.inner, Assoc.get?_set, if_neg hkey.symm]

theorem inner_set_language (members : Assoc Json) :
    Settings.inner (base.set "language_config" (.obj members)) = members := by
  rw [Settings.inner, Assoc.get?_set, if_pos rfl]

theorem mergeOne_other (hkey : key ≠ "language_config") (value : Json) :
    mergeOne base key value = .ok (base.set key value) := by
  unfold mergeOne
  split
  · rw [if_neg hkey]
  · rfl

theorem mergeOne_language (hbase : IsSource base) {members : Assoc Json}
    (hmembers : members.keys.Nodup) : mergeOne base "language_config" (.obj members) =
      .ok (base.set "language_config" (.obj ((Settings.inner base).update members))) := by
  unfold mergeOne
  rcases hbase.language_cases with ⟨hnone, hinner⟩ | hsome
  · rw [hnone, hinner]
    show _ = Except.ok (base.set "language_config" (.obj (Assoc.ofPairs members)))
    rw [Assoc.ofPairs_eq hmembers]
    rfl
  · rw [hsome]
    rfl

theorem IsSource.tail (h : IsSource ((key, value) :: rest)) : IsSource rest where
  nodup := (List.nodup_cons.mp h.nodup).2
  language {v} hv := by
    refine h.language ?_
    have hother : "language_config" ≠ key := by
      rintro rfl
      have hmem : "language_config" ∈ rest.keys := List.mem_map_of_mem (Assoc.mem_of_get? hv)
      exact (List.nodup_cons.mp h.nodup).1 hmem
    rw [Assoc.get?_cons, if_neg hother, hv]

theorem isSource_set_other (hbase : IsSource base) (hkey : key ≠ "language_config")
    (value : Json) : IsSource (base.set key value) where
  nodup := Assoc.nodup_set hbase.nodup key value
  language hv := hbase.language (by rwa [Assoc.get?_set, if_neg hkey.symm] at hv)

theorem isSource_set_language (hbase : IsSource base) {members : Assoc Json}
    (hmembers : members.keys.Nodup) : IsSource (base.set "language_config" (.obj members)) where
  nodup := Assoc.nodup_set hbase.nodup _ _
  language hv := by
    rw [Assoc.get?_set, if_pos rfl] at hv
    exact ⟨members, (Option.some.inj hv).symm, hmembers⟩

/-- **A source can always be put over another one**, and it decides what it sets. -/
theorem merge_over : ∀ {top base : Assoc Json}, IsSource base → IsSource top →
    ∃ out, merge base top = .ok out ∧ Over out top base
  | [], base, hbase, _ => ⟨base, rfl, hbase, fun _ => rfl, fun _ => rfl⟩
  | (key, value) :: rest, base, hbase, htop => by
    -- Induction on the members of the source: no later one has the name that the first one sets.
    have hfresh : Assoc.get? rest key = none :=
      Assoc.get?_eq_none.mpr (List.nodup_cons.mp htop.nodup).1
    by_cases hkey : key = "language_config"
    · subst hkey
      obtain ⟨members, rfl, hmembers⟩ :=
        htop.language (v := value) (by rw [Assoc.get?_cons, if_pos rfl])
      have hrest : Settings.inner rest = [] := by rw [Settings.inner, hfresh]
      have htopInner : Settings.inner (("language_config", .obj members) :: rest) = members := by
        rw [Settings.inner, Assoc.get?_cons, if_pos rfl]
      obtain ⟨out, hout, hover⟩ := merge_over
        (isSource_set_language hbase (Assoc.nodup_update hbase.nodup_inner members)) htop.tail
      refine ⟨out, ?_, hover.source, fun {name} hname => ?_, fun name => ?_⟩
      · rw [merge, mergeOne_language hbase hmembers]
        exact hout
      · rw [hover.value hname, Assoc.get?_set, if_neg hname, Assoc.get?_cons, if_neg hname]
      · rw [hover.inner, hrest, inner_set_language, Assoc.get?_update hmembers, htopInner]
        rfl
    · have htopInner : Settings.inner ((key, value) :: rest) = Settings.inner rest := by
        rw [Settings.inner, Settings.inner, Assoc.get?_cons, if_neg (Ne.symm hkey)]
      obtain ⟨out, hout, hover⟩ := merge_over (isSource_set_other hbase hkey value) htop.tail
      refine ⟨out, ?_, hover.source, fun {name} hname => ?_, fun name => ?_⟩
      · rw [merge, mergeOne_other hkey]
        exact hout
      · rw [hover.value hname, Assoc.get?_set, Assoc.get?_cons]
        by_cases hsame : name = key
        · rw [if_pos hsame, if_pos hsame, hsame, hfresh]
          rfl
        · rw [if_neg hsame, if_neg hsame]
      · rw [hover.inner, htopInner, inner_set_other hkey]

theorem Over.outer? (h : Over out top base) (name : String) :
    Settings.outer? out name = (Settings.outer? top name).or (Settings.outer? base name) := by
  unfold Settings.outer?
  by_cases hname : name ∈ names
  · simp [hname]
  · have hother : name ≠ "language_config" := fun heq => hname (heq ▸ by decide)
    simp [hname, h.value hother]

end Settings
end TrackingPlan
