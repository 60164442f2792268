import TrackingPlan.Proofs.Registry.Closed

/-!
# Forgetting a new language

A language that was not there before is forgotten without a trace: its registration entered no
alias of another language, and no alias of the language was left from an earlier one. So the
registry is what it was, down to the order of its tables. Here it matters that every alias belongs
to a registered language: an alias left over from the language would be forgotten with the others.

Key theorems: `Registry.unregister_enter`, `Registry.Closed.unregister_eq`,
`Registry.unregister_register`.
-/

namespace TrackingPlan
namespace Registry

open Steps

variable {r next : Registry} {language : String} {aliases names : List String}
  {c : GeneratorClass}

/-! ### Registering a new language -/

/-- What the registration of a new language does when it is not refused. -/
theorem register_eq_ok (hnew : ¬ r.languages.has (keyOf language)) :
    r.register language (.generator c) aliases false = .ok next ↔
      r.checkAliases (keyOf language) (aliasKeys (keyOf language) aliases) = .ok () ∧
        next = r.enter (keyOf language) c (aliasKeys (keyOf language) aliases) := by
  simp only [register, hnew, Bool.false_eq_true, if_false, bind_eq_ok, pure_eq_ok]
  constructor
  · rintro ⟨⟨⟩, hcheck, rfl⟩
    exact ⟨hcheck, rfl⟩
  · rintro ⟨hcheck, rfl⟩
    exact ⟨(), hcheck, rfl⟩

/-- An accepted alias belongs to the language, if it is there. -/
theorem owner_eq (h : r.Sound) (hcheck : r.checkAliases language names = .ok ()) :
    ∀ p ∈ r.aliases, p.1 ∈ names → p.2 = language := by
  rintro ⟨name, owner⟩ hp hname
  have howner := (checkAliases_eq_ok.mp hcheck name hname).2
  rwa [Assoc.get?_of_mem h.nodup hp] at howner

/-- While it is registered, a language stands for itself and its aliases lead to it. -/
theorem resolve_enter (hcheck : r.checkAliases (keyOf language)
      (aliasKeys (keyOf language) aliases) = .ok ()) :
    ∀ name ∈ language :: aliases,
      (r.enter (keyOf language) c (aliasKeys (keyOf language) aliases)).resolve name =
        .ok (keyOf language) := by
  intro name hname
  by_cases hself : keyOf name = keyOf language
  · have hhas : (r.enter (keyOf language) c (aliasKeys (keyOf language) aliases)).languages.has
        (keyOf name) := Assoc.has_set.mpr (.inl hself)
    rw [resolve, if_pos hhas, hself]
  · have hlisted : keyOf name ∈ aliasKeys (keyOf language) aliases := by
      rcases List.mem_cons.mp hname with rfl | hname
      · exact absurd rfl hself
      · exact List.mem_filter.mpr ⟨List.mem_map_of_mem hname, decide_eq_true hself⟩
    have hother : ¬ (r.enter (keyOf language) c (aliasKeys (keyOf language) aliases)).languages.has
        (keyOf name) := fun hhas =>
      (Assoc.has_set.mp hhas).elim hself (checkAliases_eq_ok.mp hcheck _ hlisted).1
    rw [resolve, if_neg hother, enter]
    simp only [Assoc.get?_foldl_set, hlisted, if_true]

/-! ### Forgetting it -/

/-- Entering a language with accepted aliases makes no difference to what is left when it is
forgotten. -/
theorem unregister_enter (h : r.Sound) (hcheck : r.checkAliases (keyOf language) names = .ok ()) :
    (r.enter (keyOf language) c names).unregister language = r.unregister language := by
  have haliases := Assoc.filter_foldl_set (owner_eq h hcheck)
  simp only [unregister, enter, Assoc.erase_set, haliases]

/-- Where every alias has its language, a language that is not there leaves no trace. -/
theorem Closed.unregister_eq (h : r.Closed) (hnew : ¬ r.languages.has (keyOf language)) :
    r.unregister language = r := by
  have hlanguages : r.languages.erase (keyOf language) = r.languages := by
    refine List.filter_eq_self.mpr fun p hp => decide_eq_true fun heq => hnew ?_
    exact Assoc.has_iff.mpr (heq ▸ List.mem_map_of_mem hp)
  have haliases : r.aliases.filter (·.2 ≠ keyOf language) = r.aliases :=
    List.filter_eq_self.mpr fun p hp => decide_eq_true fun heq => hnew (heq ▸ h p hp)
  rw [unregister, hlanguages, haliases]

/-- **Forgetting a new language undoes its registration**, in every registry that is reached: both
tables are what they were, and every name is looked up with the same answer as before. In between
the language and all its aliases led to it. -/
theorem unregister_register (history : List Request)
    (hnew : ¬ (reached history).languages.has (keyOf language))
    (h : (reached history).register language (.generator c) aliases false = .ok next) :
    (∀ name ∈ language :: aliases, next.resolve name = .ok (keyOf language)) ∧
      (next.unregister language).languages = (reached history).languages ∧
      (next.unregister language).aliases = (reached history).aliases ∧
      ∀ name, (next.unregister language).resolve name = (reached history).resolve name := by
  have hclosed : (reached history).Closed := closed_reached history
  have hsound : (reached history).Sound := by
    rw [reached_eq_after]
    exact sound_after history
  obtain ⟨hcheck, rfl⟩ := (register_eq_ok hnew).mp h
  have hundone : ((reached history).enter (keyOf language) c
      (aliasKeys (keyOf language) aliases)).unregister language = reached history := by
    rw [unregister_enter hsound hcheck, hclosed.unregister_eq hnew]
  refine ⟨resolve_enter hcheck, ?_⟩
  rw [hundone]
  exact ⟨rfl, rfl, fun _ => rfl⟩

/-- The name of the new language is the alias of another one, and its own aliases are repeated and
name the language itself. -/
theorem unregister_register_aliased :
    ∃ next, (reached stolenAlias).register "KT" (.generator .unfinished)
        ["Script", "kt", "script", "KTS"] false = .ok next ∧
      next.resolve "kt" = .ok "kt" ∧ next.resolve "script" = .ok "kt" ∧
      (next.unregister "KT").aliases = [("kt", "kotlin2"), ("jvm", "kotlin")] ∧
      (next.unregister "KT").resolve "kt" = .ok "kotlin2" := by
  obtain ⟨next, hnext⟩ : ∃ next, (reached stolenAlias).register "KT" (.generator .unfinished)
      ["Script", "kt", "script", "KTS"] false = .ok next := exists_of_isOk (by decide +kernel)
  obtain ⟨hbetween, -, haliases, hresolve⟩ :=
    unregister_register stolenAlias (by decide +kernel) hnext
  have hkey : keyOf "KT" = "kt" := by decide +kernel
  rw [hkey] at hbetween
  refine ⟨next, hnext, hbetween "kt" (by simp), hbetween "script" (by simp), ?_, ?_⟩
  · rw [haliases]
    decide +kernel
  · rw [hresolve]
    decide +kernel

end Registry
end TrackingPlan
