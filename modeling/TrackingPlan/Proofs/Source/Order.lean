import Mathlib.Data.List.Sort
import TrackingPlan.Proofs.Source.Function

/-!
# The order of parameters

The parameters of a function are the parameters of its event, sorted by whether they have a
default. The sort is stable, so it leaves two groups in the order of declaration: first the
parameters without a default, then those with one.

Key definitions: `byFlag`, `ParameterDefinition.IsOf`, `DefaultsLast`.
Key theorems: `filter_mergeSort`, `mergeSort_eq_partition`, `Event.parameterDefinitions_eq`,
`Event.exists_defaultsLast`.
-/

namespace TrackingPlan

open Naming

/-! ### Sorting by a flag -/

section Flag

variable {α : Type} {flag : α → Bool}

/-- The order by a flag: what does not have it comes first. -/
def byFlag (flag : α → Bool) (a b : α) : Bool := decide (flag a ≤ flag b)

theorem byFlag_trans (a b c : α) (hab : byFlag flag a b) (hbc : byFlag flag b c) :
    byFlag flag a c :=
  decide_eq_true (le_trans (of_decide_eq_true hab) (of_decide_eq_true hbc))

theorem byFlag_total (a b : α) : byFlag flag a b || byFlag flag b a := by
  simpa [byFlag] using le_total (flag a) (flag b)

/-- Nothing without the flag is sorted behind something with it. -/
theorem pairwise_mergeSort_byFlag (l : List α) :
    (l.mergeSort (byFlag flag)).Pairwise fun a b => flag a → flag b :=
  (List.pairwise_mergeSort byFlag_trans byFlag_total l).imp fun hab ha =>
    Bool.eq_true_of_true_le (ha ▸ of_decide_eq_true hab)

/-- The sort keeps the order of each group: of those with the flag, and of those without it. -/
theorem filter_mergeSort (flag : α → Bool) (value : Bool) (l : List α) :
    (l.mergeSort (byFlag flag)).filter (flag · = value) = l.filter (flag · = value) := by
  have hequal : (l.filter (flag · = value)).Pairwise (byFlag flag · ·) := by
    refine List.pairwise_of_forall_mem_list fun a ha b hb => ?_
    have ha := of_decide_eq_true (List.mem_filter.mp ha).2
    have hb := of_decide_eq_true (List.mem_filter.mp hb).2
    exact decide_eq_true (ha.trans hb.symm).le
  have hsublist := (List.sublist_mergeSort byFlag_trans byFlag_total hequal
    List.filter_sublist).filter (flag · = value)
  rw [List.filter_filter] at hsublist
  simp only [Bool.and_self] at hsublist
  refine (hsublist.eq_of_length ?_).symm
  exact (((List.mergeSort_perm l (byFlag flag)).filter _).length_eq).symm

/-- What has the flag stands behind what does not: the list is the one group after the other. -/
theorem eq_partition_of_pairwise : ∀ {l : List α}, l.Pairwise (fun a b => flag a → flag b) →
    l = l.filter (flag · = false) ++ l.filter (flag · = true)
  | [], _ => rfl
  | a :: l, h => by
    obtain ⟨hfirst, hrest⟩ := List.pairwise_cons.mp h
    have ih := eq_partition_of_pairwise hrest
    cases ha : flag a with
    | false =>
      have hplain : (a :: l).filter (flag · = false) = a :: l.filter (flag · = false) :=
        List.filter_cons_of_pos (decide_eq_true ha)
      have hflagged : (a :: l).filter (flag · = true) = l.filter (flag · = true) :=
        List.filter_cons_of_neg (by simp [ha])
      rw [hplain, hflagged, List.cons_append, ← ih]
    | true =>
      have hflagged : ∀ b ∈ a :: l, flag b = true := by
        rintro b (_ | ⟨_, hb⟩)
        · exact ha
        · exact hfirst b hb ha
      have hnone : (a :: l).filter (flag · = false) = [] :=
        List.filter_eq_nil_iff.mpr fun b hb => by simp [hflagged b hb]
      have hall : (a :: l).filter (flag · = true) = a :: l :=
        List.filter_eq_self.mpr fun b hb => decide_eq_true (hflagged b hb)
      rw [hnone, hall, List.nil_append]

/-- **A stable sort by a flag is a partition**: what does not have the flag, then what has it, each
in order. -/
theorem mergeSort_eq_partition (l : List α) : l.mergeSort (byFlag flag) =
    l.filter (flag · = false) ++ l.filter (flag · = true) := by
  rw [← filter_mergeSort flag false, ← filter_mergeSort flag true]
  exact eq_partition_of_pairwise (pairwise_mergeSort_byFlag l)

end Flag

/-! ### The parameters of a function -/

/-- The definition of a parameter: it has all that the parameter has, and a default exactly when
the name of the parameter is a defaulted one. -/
structure ParameterDefinition.IsOf (defaulted : List String) (p : Parameter)
    (d : ParameterDefinition) : Prop where
  name : d.name = p.name
  identifier : d.identifier = parameterName p.name
  type : d.type = p.type
  description : d.description = p.description
  hasDefault : d.hasDefault ↔ p.name ∈ defaulted
  defaultName : d.hasDefault → d.defaultName = some p.name

/-- The parameters in another order: those with a defaulted name come after all others, and each
of the two groups is in the order it had. -/
structure DefaultsLast (defaulted : List String) (ps sorted : List Parameter) : Prop where
  perm : sorted.Perm ps
  last : sorted.Pairwise fun p q => p.name ∈ defaulted → q.name ∈ defaulted
  others : sorted.filter (·.name ∉ defaulted) = ps.filter (·.name ∉ defaulted)
  defaulted : sorted.filter (·.name ∈ defaulted) = ps.filter (·.name ∈ defaulted)

variable {event : Event} {options : Options} {f : EventFunction}

theorem Parameter.hasDefault_definition (conventions : Conventions) (p : Parameter) :
    (p.definition conventions).hasDefault = decide (p.name ∈ conventions.defaultedParameters) := by
  unfold definition ParameterDefinition.hasDefault
  split <;> simp_all

theorem Parameter.definition_isOf (conventions : Conventions) (p : Parameter) :
    (p.definition conventions).IsOf conventions.defaultedParameters p where
  name := rfl
  identifier := rfl
  type := rfl
  description := rfl
  hasDefault := by rw [p.hasDefault_definition, decide_eq_true_iff]
  defaultName h := by
    rw [p.hasDefault_definition, decide_eq_true_iff] at h
    exact if_pos h

/-- Sorting by whether the name is a defaulted one puts the defaulted parameters last. -/
theorem defaultsLast_mergeSort (defaulted : List String) (ps : List Parameter) :
    DefaultsLast defaulted ps (ps.mergeSort (byFlag (·.name ∈ defaulted))) where
  perm := List.mergeSort_perm ps _
  last := (pairwise_mergeSort_byFlag ps).imp fun hpq hp => by simpa using hpq (by simpa using hp)
  others := by simpa using filter_mergeSort (·.name ∈ defaulted) false ps
  defaulted := by simpa using filter_mergeSort (·.name ∈ defaulted) true ps

namespace Event

/-- **The definitions are sorted by whether they have a default.** -/
theorem parameterDefinitions_eq (event : Event) (conventions : Conventions) :
    event.parameterDefinitions conventions =
      (event.parameters.map (·.definition conventions)).mergeSort (byFlag (·.hasDefault)) := by
  rw [mergeSort_eq_partition, parameterDefinitions]
  simp

/-- They are the definitions of the sorted parameters. -/
theorem parameterDefinitions_eq_map (event : Event) (conventions : Conventions) :
    event.parameterDefinitions conventions =
      (event.parameters.mergeSort (byFlag (·.name ∈ conventions.defaultedParameters))).map
        (·.definition conventions) := by
  rw [parameterDefinitions_eq]
  refine (List.map_mergeSort fun p _ q _ => ?_).symm
  simp only [byFlag, Parameter.hasDefault_definition]

/-- **The function of an event has the parameters of the event, the defaulted ones last**, in the
order of declaration otherwise. -/
theorem exists_defaultsLast (h : event.toFunction options = .ok f) :
    ∃ conventions sorted, options.conventions = .ok conventions ∧
      DefaultsLast conventions.defaultedParameters event.parameters sorted ∧
      List.Forall₂ (ParameterDefinition.IsOf conventions.defaultedParameters) sorted
        f.parameters := by
  obtain ⟨conventions, _, _, _, _, hconventions, -, -, -, -, -, -, rfl⟩ := toFunction_eq_ok.mp h
  refine ⟨conventions, _, hconventions, defaultsLast_mergeSort _ _, ?_⟩
  rw [parameterDefinitions_eq_map, List.forall₂_map_right_iff, List.forall₂_same]
  exact fun p _ => p.definition_isOf conventions

/-- No parameter without a default comes after one with a default. -/
theorem pairwise_hasDefault (h : event.toFunction options = .ok f) :
    f.parameters.Pairwise fun d e => d.hasDefault → e.hasDefault := by
  obtain ⟨conventions, _, _, _, _, -, -, -, -, -, -, -, rfl⟩ := toFunction_eq_ok.mp h
  rw [parameterDefinitions_eq]
  exact pairwise_mergeSort_byFlag _

end Event
end TrackingPlan
