import TrackingPlan.Proofs.Settings.Sources

/-!
# How a source becomes a complete configuration

The members of a source that are no settings of the generator are put over the settings of the
language, which all come to stand in one place. What the source leaves out is filled up with the
defaults, and the conventions with the default ones, one by one.

Key definitions: `Settings.languageSettings`, `Settings.Sorted`, `Settings.completed`,
`Settings.Decided`.
Key theorems: `Settings.languageEntry_sorted`, `Settings.decided_of_assemble`,
`Settings.exists_assemble_iff`.
-/

namespace TrackingPlan

/-! ### Tables under texts -/

namespace Table

variable {a b : Assoc Json}

theorem set_ofMembers : ∀ (a : Assoc Json) (name : String) (v : Json),
    set (ofMembers a) (.str name) v = ofMembers (a.set name v)
  | [], _, _ => rfl
  | (n, w) :: a, name, v => by
    show set ((.str n, w) :: ofMembers a) (.str name) v = _
    rw [set, Assoc.set, set_ofMembers a name v]
    by_cases h : n = name
    · simp [h, Json.same, ofMembers]
    · simp [h, Json.same, ofMembers]

theorem update_ofMembers (a : Assoc Json) :
    ∀ b : Assoc Json, update (ofMembers a) (ofMembers b) = ofMembers (a.update b) := by
  intro b
  induction b generalizing a with
  | nil => rfl
  | cons p b ih =>
    show update (set (ofMembers a) (.str p.1) p.2) (ofMembers b) =
      ofMembers ((a.set p.1 p.2).update b)
    rw [set_ofMembers, ih]

theorem written_ofMembers (a : Assoc Json) : written (ofMembers a) = a := by
  rw [written, ofMembers, List.map_map]
  exact List.map_id' a

theorem members?_ofMembers : ∀ a : Assoc Json, members? (ofMembers a) = some a
  | [] => rfl
  | (name, v) :: a => by
    show (members? (ofMembers a)).map _ = _
    rw [members?_ofMembers a]
    rfl

end Table

namespace Settings

open Steps

variable {source : Assoc Json} {name : String} {v : Json}

/-! ### Sorted settings -/

/-- The members at the top that are settings of the generator. -/
def known (source : Assoc Json) : Assoc Json := source.filter fun p => default.entries.has p.1

/-- The members at the top that are no settings of the generator. -/
def outer (source : Assoc Json) : Assoc Json := source.filter fun p => !default.entries.has p.1

theorem get?_known (hname : name ∈ names) : (known source).get? name = source.get? name := by
  have hhas : default.entries.has name := Assoc.has_iff.mpr hname
  exact (Assoc.get?_filter_keys default.entries.has name source).trans (if_pos hhas)

theorem get?_outer (source : Assoc Json) (name : String) :
    (outer source).get? name = outer? source name := by
  have hhas : name ∈ names ↔ default.entries.has name := Assoc.has_iff.symm
  refine (Assoc.get?_filter_keys (fun n => !default.entries.has n) name source).trans ?_
  unfold outer?
  by_cases hname : default.entries.has name
  · simp [hhas, hname]
  · simp [hhas, hname]

/-- The settings of the language in a source: those at the top are put over the others. -/
def languageSettings (source : Assoc Json) : Assoc Json :=
  (Settings.inner source).update (outer source)

theorem get?_languageSettings (h : IsSource source) (name : String) :
    (languageSettings source).get? name = languageSetting? source name := by
  have hnodup : (outer source).keys.Nodup := Assoc.nodup_filter h.nodup _
  rw [languageSettings, Assoc.get?_update hnodup, get?_outer, languageSetting?]

/-- The settings that are left when those of the language have gone to their own place. -/
structure Sorted (source entries : Assoc Json) : Prop where
  nodup : entries.keys.Nodup
  value : ∀ {name}, name ∈ names → name ≠ "language_config" →
    entries.get? name = source.get? name
  language : (entries.get? "language_config").getD (.obj []) = .obj (languageSettings source)

/-- The settings of the language of a source are always texts with values. -/
theorem languageEntry_sorted (h : IsSource source) :
    ∃ entries, languageEntry (known source) (outer source) = .ok ⟨entries, none⟩ ∧
      Sorted source entries := by
  have hlanguage : (known source).get? "language_config" = source.get? "language_config" :=
    get?_known (by decide)
  have hnodup : (known source).keys.Nodup := Assoc.nodup_filter h.nodup _
  cases houter : outer source with
  | nil =>
    refine ⟨known source, rfl, hnodup, fun hname _ => get?_known hname, ?_⟩
    rw [hlanguage, languageSettings, houter]
    rcases h.language_cases with ⟨hnone, hinner⟩ | hsome
    · rw [hnone, hinner]
      rfl
    · rw [hsome]
      rfl
  | cons p unknown =>
    have hbefore : Table.ofValue? ((source.get? "language_config").getD .null) =
        some (Table.ofMembers (Settings.inner source)) := by
      rcases h.language_cases with ⟨hnone, hinner⟩ | hsome
      · rw [hnone, hinner]
        rfl
      · rw [hsome]
        cases Settings.inner source <;> rfl
    refine ⟨(known source).set "language_config" (.obj (languageSettings source)), ?_,
      Assoc.nodup_set hnodup _ _, fun {name} hname hother => ?_, ?_⟩
    · simp only [languageEntry, hlanguage, hbefore, Table.update_ofMembers,
        Table.written_ofMembers, Table.members?_ofMembers, languageSettings, houter]
      rfl
    · rw [Assoc.get?_set, if_neg hother, get?_known hname]
    · rw [Assoc.get?_set, if_pos rfl]
      rfl

/-! ### The complete configuration -/

/-- The value of the conventions when they are set to a value: an object is made complete. -/
def completed : Json → Except ConfigError Json
  | .obj members => (conventions members).map .obj
  | v => .ok v

theorem completed_eq_obj {members : Assoc Json} {w : Json} : completed (.obj members) = .ok w ↔
    ∃ c, conventions members = .ok c ∧ Json.obj c = w := by
  rw [completed, map_eq_ok]

theorem completed_eq_other {w : Json} (hv : ∀ members, v ≠ .obj members) :
    completed v = .ok w ↔ v = w := by
  cases v with
  | obj members => exact absurd rfl (hv members)
  | _ => exact ⟨fun h => Except.ok.inj h, fun h => congrArg Except.ok h⟩

/-- What the first of several sources that has a name gives it. -/
def firstOf (sources : List (Assoc Json)) (name : String) : Option Json :=
  sources.findSome? (·.get? name)

/-- What a complete configuration says, where the given sources decide its settings. -/
structure Decided (s : Settings) (sources : List (Assoc Json)) (language : Assoc Json) : Prop where
  value : ∀ {name}, name ∈ names → name ≠ "conventions" → name ≠ "language_config" →
    s.entries.get? name = firstOf sources name
  conventions : ∃ v, firstOf sources "conventions" = some v ∧
    completed v = .ok (s.get "conventions")
  language : s.language = .ok language

theorem assemble_cases (h : IsSource source) : ∃ entries, Sorted source entries ∧
    ∀ s, assemble source = .ok s ↔
      (∃ c c', source.get? "conventions" = some (.obj c) ∧ Settings.conventions c = .ok c' ∧
        s = ⟨default.entries.update (entries.set "conventions" (.obj c')), none⟩) ∨
      (∀ c, source.get? "conventions" ≠ some (.obj c)) ∧
        s = ⟨default.entries.update entries, none⟩ := by
  obtain ⟨entries, hentry, hsorted⟩ := languageEntry_sorted h
  refine ⟨entries, hsorted, fun s => ?_⟩
  rw [assemble_eq_ok, ← hsorted.value (by decide) (by decide)]
  constructor
  · rintro ⟨t, ht, hcases⟩
    obtain rfl := Except.ok.inj (hentry.symm.trans ht)
    exact hcases
  · exact fun hcases => ⟨_, hentry, hcases⟩

/-- Sorted settings become complete where only the conventions are set to something else. -/
theorem Sorted.decided {entries final : Assoc Json} (h : Sorted source entries)
    (hnodup : final.keys.Nodup)
    (hother : ∀ {name}, name ≠ "conventions" → final.get? name = entries.get? name)
    (hconventions : ∃ v, firstOf [source, default.entries] "conventions" = some v ∧
      completed v = .ok ((final.get? "conventions").getD (default.get "conventions"))) :
    Decided ⟨default.entries.update final, none⟩ [source, default.entries]
      (languageSettings source) where
  value {name} hname hconventions hlanguage := by
    rw [Assoc.get?_update hnodup, hother hconventions, h.value hname hlanguage]
    unfold firstOf
    cases hv : source.get? name <;> simp [hv]
  conventions := by
    obtain ⟨v, hv, hcompleted⟩ := hconventions
    refine ⟨v, hv, hcompleted.trans (congrArg Except.ok ?_)⟩
    show _ = ((default.entries.update final).get? "conventions").getD .null
    rw [Assoc.get?_update hnodup]
    cases final.get? "conventions" <;> rfl
  language := by
    have hvalue := h.language
    rw [← hother (by decide)] at hvalue
    unfold Settings.language get Json.member
    rw [Assoc.get?_update hnodup]
    cases hv : final.get? "language_config" with
    | none =>
      rw [hv] at hvalue
      obtain hempty := Json.obj.inj hvalue
      rw [← hempty]
      rfl
    | some v =>
      rw [hv] at hvalue
      have hobject : v = .obj (languageSettings source) := hvalue
      rw [hobject]
      rfl

theorem decided_of_assemble (h : IsSource source) {s : Settings} (hs : assemble source = .ok s) :
    Decided s [source, default.entries] (languageSettings source) := by
  obtain ⟨entries, hsorted, hcases⟩ := assemble_cases h
  have hconventions : entries.get? "conventions" = source.get? "conventions" :=
    hsorted.value (by decide) (by decide)
  rcases (hcases s).mp hs with ⟨c, c', hc, hcomplete, rfl⟩ | ⟨hother, rfl⟩
  · refine hsorted.decided (Assoc.nodup_set hsorted.nodup _ _) (fun hname => ?_) ⟨.obj c, ?_, ?_⟩
    · rw [Assoc.get?_set, if_neg hname]
    · simp [firstOf, hc]
    · rw [Assoc.get?_set, if_pos rfl]
      exact completed_eq_obj.mpr ⟨c', hcomplete, rfl⟩
  · refine hsorted.decided hsorted.nodup (fun _ => rfl) ?_
    rw [hconventions]
    cases hv : source.get? "conventions" with
    | none =>
      refine ⟨.obj ({} : Conventions).members, by simp [firstOf, hv]; rfl, ?_⟩
      exact completed_eq_obj.mpr ⟨_, conventions_of_complete complete_default, rfl⟩
    | some v =>
      have hvalue : ∀ members, v ≠ .obj members := fun members heq => hother members (heq ▸ hv)
      exact ⟨v, by simp [firstOf, hv], (completed_eq_other hvalue).mpr rfl⟩

/-- A source can be made complete exactly when its conventions can. -/
theorem exists_assemble_iff (h : IsSource source) : (∃ s, assemble source = .ok s) ↔
    ∃ v w, firstOf [source, default.entries] "conventions" = some v ∧ completed v = .ok w := by
  constructor
  · rintro ⟨s, hs⟩
    obtain ⟨v, hv, hw⟩ := (decided_of_assemble h hs).conventions
    exact ⟨v, _, hv, hw⟩
  · rintro ⟨v, w, hv, hw⟩
    obtain ⟨entries, -, hcases⟩ := assemble_cases h
    by_cases hobject : ∃ c, source.get? "conventions" = some (.obj c)
    · obtain ⟨c, hc⟩ := hobject
      have hvc : v = .obj c := by
        simp only [firstOf, List.findSome?_cons, hc, Option.some.injEq] at hv
        exact hv.symm
      obtain ⟨c', hc', -⟩ := completed_eq_obj.mp (hvc ▸ hw)
      exact ⟨_, (hcases _).mpr (.inl ⟨c, c', hc, hc', rfl⟩)⟩
    · exact ⟨_, (hcases _).mpr (.inr ⟨fun c hc => hobject ⟨c, hc⟩, rfl⟩)⟩

end Settings
end TrackingPlan
