import TrackingPlan.Naming.Camel
import TrackingPlan.Proofs.Text.Case
import TrackingPlan.Proofs.Text.Lines

/-!
# Names in camel form

A name is in camel form when it has no separators and starts with what the upper case mapping
leaves alone. Normalizing gives such a name, and it is such names that it leaves as they are.

Key definition: `IsCamel`.
Key theorem: `normalize_settles`.
-/

namespace TrackingPlan
namespace Naming

open Text

variable {name : String}

/-- A name without separators whose first character stays in upper case. -/
structure IsCamel (name : String) : Prop where
  no_underscore : '_' ∉ name.toList
  no_space : ' ' ∉ name.toList
  capitalized : capitalize name.toList = name.toList

/-- A character that separates parts comes through only from inside one of them. -/
theorem separator_mem_normalize {x : Char} (hx : x ∈ [' ', '_'])
    (h : x ∈ (normalize name).toList) : x ∈ name.toList.filter (· ≠ ' ') ∧ x ≠ '_' := by
  rw [normalize, String.toList_ofList, List.mem_flatMap] at h
  obtain ⟨part, hpart, hmem⟩ := h
  exact mem_of_mem_splitOn hpart (mem_of_separator_mem_capitalize hx hmem)

theorem isCamel_normalize (name : String) : IsCamel (normalize name) where
  no_underscore h := (separator_mem_normalize (by decide) h).2 rfl
  no_space h :=
    absurd (List.mem_filter.mp (separator_mem_normalize (by decide) h).1).2 (by decide)
  capitalized := by
    rw [normalize, String.toList_ofList, capitalize_flatMap_capitalize]

theorem IsCamel.normalize_eq (h : IsCamel name) : normalize name = name := by
  have hfilter : name.toList.filter (· ≠ ' ') = name.toList := List.filter_eq_self.mpr fun c hc =>
    decide_eq_true fun hspace => h.no_space (hspace ▸ hc)
  rw [normalize, hfilter, List.splitOn_eq_singleton h.no_underscore, List.flatMap_cons,
    List.flatMap_nil, List.append_nil, h.capitalized, String.ofList_toList]

/-- **Normalized names** have no separators and are normalized once and for all; it is exactly the
names in camel form that normalizing leaves as they are. -/
theorem normalize_settles (name : String) :
    '_' ∉ (normalize name).toList ∧ ' ' ∉ (normalize name).toList ∧
      normalize (normalize name) = normalize name ∧
      (normalize name = name ↔ IsCamel name) :=
  ⟨(isCamel_normalize name).no_underscore, (isCamel_normalize name).no_space,
    (isCamel_normalize name).normalize_eq,
    ⟨fun h => h ▸ isCamel_normalize name, IsCamel.normalize_eq⟩⟩

/-- One character becomes several in the second part, and two in the first one. -/
example : normalize "ßa_ŉ b__c" = "SSaʼNbC" := by decide

end Naming
end TrackingPlan
