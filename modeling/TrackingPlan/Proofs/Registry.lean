import TrackingPlan.Proofs.Assoc
import TrackingPlan.Proofs.Steps
import TrackingPlan.Registry

/-!
# Generators from the registry

The languages that are always there lead to the generator of their target, made under the
configuration that was asked for.

Key theorem: `Registry.builtin_create_eq_ok`.
-/

namespace TrackingPlan
namespace Registry

open Steps

/-- The registered language is that of a target. -/
theorem instantiate_builtin_eq_ok {language : String} {settings : Settings} {g : Generator}
    (h : instantiate (builtin.languages.get? language) settings = .ok g) :
    ∃ target : Target, target.name = language ∧ Generator.create target settings = .ok g := by
  simp only [builtin, Assoc.get?_cons, Assoc.get?_nil] at h
  split at h
  · rename_i hkotlin
    exact ⟨.kotlin, hkotlin.symm, mapError_eq_ok.mp h⟩
  · split at h
    · rename_i hpython
      exact ⟨.python, hpython.symm, mapError_eq_ok.mp h⟩
    · exact nomatch h

variable [Depths]

/-- A generator is that of a language, under a configuration for this language. -/
theorem exists_of_create {r : Registry} {files : FileTree} {name : String}
    {source : ConfigSource} {g : Generator} (h : r.create files name source = .ok g) :
    ∃ language settings, r.resolve name = .ok language ∧
      settingsFrom files language source = .ok settings ∧
      instantiate (r.languages.get? language) settings = .ok g := by
  unfold create at h
  obtain ⟨language, hlanguage, h⟩ := bind_eq_ok.mp h
  cases source with
  | unsupported kind => exact absurd h throw_ne_ok
  | _ =>
    obtain ⟨settings, hsettings, hinstantiate⟩ := bind_eq_ok.mp h
    exact ⟨language, settings, hlanguage, mapError_eq_ok.mp hsettings,
      mapError_eq_ok.mp hinstantiate⟩

/-- Where a generator comes from that is made for a language that is always there. -/
theorem builtin_create_eq_ok {files : FileTree} {name : String} {source : ConfigSource}
    {g : Generator} (h : builtin.create files name source = .ok g) :
    ∃ (target : Target) (settings : Settings), builtin.resolve name = .ok target.name ∧
      settingsFrom files target.name source = .ok settings ∧
      Generator.create target settings = .ok g := by
  obtain ⟨language, settings, hlanguage, hsettings, hinstantiate⟩ := exists_of_create h
  obtain ⟨target, rfl, hcreate⟩ := instantiate_builtin_eq_ok hinstantiate
  exact ⟨target, settings, hlanguage, hsettings, hcreate⟩

end Registry
end TrackingPlan
