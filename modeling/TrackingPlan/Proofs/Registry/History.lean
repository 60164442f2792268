import TrackingPlan.Proofs.Assoc
import TrackingPlan.Proofs.Steps
import TrackingPlan.Proofs.Text.Case
import TrackingPlan.Registry

/-!
# The history of a registry

A registry is asked to register languages with aliases and to forget them again, in any order. A
request that is refused changes nothing. An alias that is listed for a language leads to it unless
the alias has become a language itself, which then stands before it: aliases are looked at when a
language is registered, but the name of the language is not looked for among the aliases, and a
registration that replaces looks at nothing.

The invariant is `Registry.Sound`: aliases are in their compared form, each has one language, and
none is an alias of itself.

Key definitions: `Registry.Request`, `Registry.after`, `Registry.Sound`, `Registry.Apart`,
`Registry.Careful`.
Key theorems: `Registry.sound_after`, `Registry.apart_after`, `Registry.resolve_listed`.
-/

namespace TrackingPlan
namespace Registry

open Steps

/-- What can change a registry. -/
inductive Request where
  | register (language : String) (candidate : Candidate) (aliases : List String) (replace : Bool)
  | unregister (language : String)

/-- The registry after a request; one that is refused changes nothing. -/
def serve (r : Registry) : Request → Registry
  | .register language candidate aliases replace =>
    match r.register language candidate aliases replace with
    | .ok next => next
    | .error _ => r
  | .unregister language => r.unregister language

/-- A registry that was empty after one request after another. -/
def after (history : List Request) : Registry := history.foldl serve {}

/-- The aliases are in their compared form, each stands there once, and none for itself. -/
structure Sound (r : Registry) : Prop where
  nodup : r.aliases.keys.Nodup
  compared : ∀ p ∈ r.aliases, keyOf p.1 = p.1
  proper : ∀ p ∈ r.aliases, p.1 ≠ p.2

/-- No alias is a language. -/
def Apart (r : Registry) : Prop := ∀ p ∈ r.aliases, ¬ r.languages.has p.1

/-- The request makes no language of an alias and, where it replaces, no alias of a language. -/
def Request.IsCareful (r : Registry) : Request → Prop
  | .register language _ aliases replace => ¬ r.aliases.has (keyOf language) ∧
      (replace → ∀ name ∈ aliasKeys (keyOf language) aliases, ¬ r.languages.has name)
  | .unregister _ => True

/-- Every request is careful about the registry that it meets. -/
def Careful (r : Registry) : List Request → Prop
  | [] => True
  | request :: rest => request.IsCareful r ∧ (r.serve request).Careful rest

instance (r : Registry) : ∀ request : Request, Decidable (request.IsCareful r)
  | .register _ _ _ _ => inferInstanceAs (Decidable (_ ∧ _))
  | .unregister _ => inferInstanceAs (Decidable True)

/-- Decides whether a history is careful. -/
def decideCareful : ∀ (r : Registry) (history : List Request), Decidable (r.Careful history)
  | _, [] => inferInstanceAs (Decidable True)
  | r, request :: rest =>
    have := decideCareful (r.serve request) rest
    inferInstanceAs (Decidable (_ ∧ _))

instance (r : Registry) (history : List Request) : Decidable (r.Careful history) :=
  decideCareful r history

variable {r : Registry} {language name : String} {names aliases : List String}
  {c : GeneratorClass}

theorem keyOf_keyOf (name : String) : keyOf (keyOf name) = keyOf name :=
  Text.lowercase_lowercase name

/-! ### One request -/

/-- Aliases are accepted when none of them is a language or belongs to another one. -/
theorem checkAliases_eq_ok : ∀ {names : List String}, r.checkAliases language names = .ok () ↔
    ∀ name ∈ names, ¬ r.languages.has name ∧ (r.aliases.get? name).getD language = language
  | [] => by simp [checkAliases]
  | name :: rest => by
    simp only [checkAliases, List.forall_mem_cons]
    by_cases hlanguage : r.languages.has name
    · simp [hlanguage]
    · by_cases howner : (r.aliases.get? name).getD language = language
      · simp [hlanguage, howner, checkAliases_eq_ok]
      · simp [hlanguage, howner]

/-- What a request does: nothing, forgetting a language, or entering one. -/
theorem serve_cases (r : Registry) (request : Request) : r.serve request = r ∨
    (∃ language, request = .unregister language ∧ r.serve request = r.unregister language) ∨
    ∃ language c aliases replace,
      request = .register language (.generator c) aliases replace ∧
      r.serve request = r.enter (keyOf language) c (aliasKeys (keyOf language) aliases) ∧
      (replace ∨
        r.checkAliases (keyOf language) (aliasKeys (keyOf language) aliases) = .ok ()) := by
  cases request with
  | unregister language => exact .inr (.inl ⟨language, rfl, rfl⟩)
  | register language candidate aliases replace =>
    cases candidate with
    | other => exact .inl rfl
    | generator c =>
      unfold serve register
      by_cases hreplace : replace
      · simp only [hreplace, if_true]
        exact .inr (.inr ⟨language, c, aliases, true, rfl, rfl, .inl rfl⟩)
      · by_cases hknown : r.languages.has (keyOf language)
        · simp [hreplace, hknown]
        · cases hcheck : r.checkAliases (keyOf language) (aliasKeys (keyOf language) aliases) with
          | error e =>
            refine .inl ?_
            simp [hreplace, hknown, hcheck, bind, Except.bind]
          | ok _ =>
            refine .inr (.inr ⟨language, c, aliases, replace, rfl, ?_, .inr hcheck⟩)
            simp [hreplace, hknown, hcheck, bind, Except.bind, pure, Except.pure]

theorem mem_aliasKeys (h : name ∈ aliasKeys language aliases) :
    keyOf name = name ∧ name ≠ language := by
  obtain ⟨hmem, hne⟩ := List.mem_filter.mp h
  obtain ⟨asked, -, rfl⟩ := List.mem_map.mp hmem
  exact ⟨keyOf_keyOf asked, of_decide_eq_true hne⟩

/-- The aliases after a language was entered: its own, and those that were there. -/
theorem mem_aliases_enter {p : String × String} (h : p ∈ (r.enter language c names).aliases) :
    p.1 ∈ names ∧ p.2 = language ∨ p ∈ r.aliases := by
  simp only [enter] at h
  generalize r.aliases = t at h ⊢
  induction names generalizing t with
  | nil => exact .inr h
  | cons name names ih =>
    rcases ih _ h with ⟨hmem, hp⟩ | hold
    · exact .inl ⟨List.mem_cons_of_mem name hmem, hp⟩
    · rcases Assoc.mem_set hold with rfl | hold
      · exact .inl ⟨List.mem_cons_self, rfl⟩
      · exact .inr hold

theorem nodup_aliases_enter (h : r.aliases.keys.Nodup) :
    (r.enter language c names).aliases.keys.Nodup := by
  simp only [enter]
  generalize r.aliases = t at h ⊢
  induction names generalizing t with
  | nil => exact h
  | cons name names ih => exact ih _ (Assoc.nodup_set h name language)

theorem sound_serve (h : r.Sound) (request : Request) : (r.serve request).Sound := by
  rcases r.serve_cases request with heq | ⟨language, -, heq⟩ | ⟨language, c, aliases, _, -, heq, -⟩
  · rwa [heq]
  · rw [heq]
    exact ⟨Assoc.nodup_filter h.nodup _, fun p hp => h.compared p (List.mem_filter.mp hp).1,
      fun p hp => h.proper p (List.mem_filter.mp hp).1⟩
  · rw [heq]
    refine ⟨nodup_aliases_enter h.nodup, fun p hp => ?_, fun p hp => ?_⟩
    · rcases mem_aliases_enter hp with ⟨hname, -⟩ | hold
      · exact (mem_aliasKeys hname).1
      · exact h.compared p hold
    · rcases mem_aliases_enter hp with ⟨hname, hlanguage⟩ | hold
      · exact hlanguage ▸ (mem_aliasKeys hname).2
      · exact h.proper p hold

/-- A careful request keeps aliases and languages apart. -/
theorem apart_serve (h : r.Apart) {request : Request} (hcareful : request.IsCareful r) :
    (r.serve request).Apart := by
  rcases r.serve_cases request with
    heq | ⟨language, -, heq⟩ | ⟨language, c, aliases, replace, rfl, heq, hchecked⟩
  · rwa [heq]
  · rw [heq]
    intro p hp hlanguage
    exact h p (List.mem_filter.mp hp).1 (Assoc.has_of_has_erase hlanguage)
  · rw [heq]
    have hfree : ∀ name ∈ aliasKeys (keyOf language) aliases, ¬ r.languages.has name := by
      rcases hchecked with hreplace | hcheck
      · exact hcareful.2 hreplace
      · exact fun name hname => (checkAliases_eq_ok.mp hcheck name hname).1
    intro p hp hlanguage
    rcases Assoc.has_set.mp hlanguage with hnew | hold
    · rcases mem_aliases_enter hp with ⟨hname, -⟩ | hthere
      · exact (mem_aliasKeys hname).2 hnew
      · exact hcareful.1 (hnew ▸ Assoc.has_iff.mpr (List.mem_map_of_mem hthere))
    · rcases mem_aliases_enter hp with ⟨hname, -⟩ | hthere
      · exact hfree p.1 hname hold
      · exact h p hthere hold

/-! ### All requests -/

/-- **The aliases are sound after every history.** -/
theorem sound_after (history : List Request) : (after history).Sound := by
  suffices ∀ r : Registry, r.Sound → (history.foldl serve r).Sound from
    this {} ⟨List.nodup_nil, fun _ h => absurd h List.not_mem_nil,
      fun _ h => absurd h List.not_mem_nil⟩
  induction history with
  | nil => exact fun _ h => h
  | cons request rest ih => exact fun r h => ih _ (sound_serve h request)

/-- **No alias is a language after a careful history.** -/
theorem apart_after {history : List Request} (hcareful : Careful {} history) :
    (after history).Apart := by
  suffices ∀ r : Registry, r.Apart → r.Careful history → (history.foldl serve r).Apart from
    this {} (fun _ h => absurd h List.not_mem_nil) hcareful
  clear hcareful
  induction history with
  | nil => exact fun _ h _ => h
  | cons request rest ih => exact fun r h hcareful => ih _ (apart_serve h hcareful.1) hcareful.2

/-! ### Listed aliases -/

theorem mem_aliasesOf : name ∈ r.aliasesOf language ↔ (name, keyOf language) ∈ r.aliases := by
  rw [aliasesOf, List.mem_mergeSort, List.mem_map]
  constructor
  · rintro ⟨⟨n, l⟩, hp, rfl⟩
    obtain ⟨hp, hl⟩ := List.mem_filter.mp hp
    exact of_decide_eq_true hl ▸ hp
  · exact fun h => ⟨_, List.mem_filter.mpr ⟨h, decide_eq_true rfl⟩, rfl⟩

/-- Where a listed alias leads to. -/
theorem resolve_eq (h : r.Sound) (hname : name ∈ r.aliasesOf language) :
    r.resolve name = .ok (if r.languages.has name then name else keyOf language) := by
  have hmem := mem_aliasesOf.mp hname
  have hget : r.aliases.get? name = some (keyOf language) := Assoc.get?_of_mem h.nodup hmem
  have hkey : keyOf name = name := h.compared (name, keyOf language) hmem
  rw [resolve, hkey, hget]
  split <;> rfl

/-- **A listed alias leads to its language exactly when it is no language itself**; a language
stands for itself. So after a careful history every listed alias leads to its language. -/
theorem resolve_listed {history : List Request}
    (hname : name ∈ (after history).aliasesOf language) :
    ((after history).resolve name = .ok (keyOf language) ↔ ¬ (after history).languages.has name) ∧
      ((after history).languages.has name → (after history).resolve name = .ok name) ∧
      (Careful {} history → (after history).resolve name = .ok (keyOf language)) := by
  have hsound := sound_after history
  have hproper : name ≠ keyOf language := hsound.proper _ (mem_aliasesOf.mp hname)
  have heq := resolve_eq hsound hname
  refine ⟨?_, fun hlanguage => by rw [heq, if_pos hlanguage], fun hcareful => ?_⟩
  · rw [heq]
    by_cases hlanguage : (after history).languages.has name
    · simp [hlanguage, hproper]
    · simp [hlanguage]
  · rw [heq, if_neg (apart_after hcareful _ (mem_aliasesOf.mp hname))]

/-- Two languages with an alias each, one of them asked for in another case. -/
def twoLanguages : List Request := [
  .register "Kotlin" (.generator (.target .kotlin)) ["KT", "kotlin"] false,
  .register "python" (.generator (.target .python)) ["py", "kt"] false,
  .register "python" (.generator (.target .python)) ["py"] false]

theorem resolve_listed_twoLanguages : "kt" ∈ (after twoLanguages).aliasesOf "KOTLIN" ∧
    Careful {} twoLanguages ∧ (after twoLanguages).resolve "kt" = .ok "kotlin" := by
  have hlisted : "kt" ∈ (after twoLanguages).aliasesOf "KOTLIN" :=
    mem_aliasesOf.mpr (by decide +kernel)
  have hcareful : Careful {} twoLanguages := by decide +kernel
  have hkey : keyOf "KOTLIN" = "kotlin" := by decide +kernel
  exact ⟨hlisted, hcareful, hkey ▸ (resolve_listed hlisted).2.2 hcareful⟩

/-- A language that is registered under the alias of another one. -/
def aliasAsLanguage : List Request := [
  .register "kotlin" (.generator (.target .kotlin)) ["kt"] false,
  .register "kt" (.generator (.target .plain)) [] false]

/-- Not every listed alias leads to its language. -/
theorem language_hides_alias : ¬ ∀ (history : List Request) (language name : String),
    (after history).languages.has (keyOf language) → name ∈ (after history).aliasesOf language →
      (after history).resolve name = .ok (keyOf language) := by
  intro h
  have hresolve := h aliasAsLanguage "kotlin" "kt" (by decide +kernel)
    (mem_aliasesOf.mpr (by decide +kernel))
  exact absurd hresolve (by decide +kernel)

end Registry
end TrackingPlan
