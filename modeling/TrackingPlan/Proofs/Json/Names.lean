import TrackingPlan.Proofs.Json.Kinds

/-!
# The names in objects that are read

A text may write a name twice in one object. The value that is read has it once: every object in
it, however deep, has different names.

Key definition: `Json.HasDistinctNames`.
Key theorems: `Json.isInductive_hasDistinctNames`, `Json.hasDistinctNames_of_read`.
-/

namespace TrackingPlan

namespace Json

/-- Every object in the value has different names. -/
inductive HasDistinctNames : Json → Prop
  | null : HasDistinctNames null
  | bool (b : Bool) : HasDistinctNames (bool b)
  | int (n : Int) : HasDistinctNames (int n)
  | real (x : Double) : HasDistinctNames (real x)
  | str (s : String) : HasDistinctNames (str s)
  | arr {items : List Json} : (∀ v ∈ items, HasDistinctNames v) → HasDistinctNames (arr items)
  | obj {members : Assoc Json} : members.keys.Nodup → (∀ p ∈ members, HasDistinctNames p.2) →
      HasDistinctNames (obj members)

variable {v : Json}

theorem HasDistinctNames.nodup {members : Assoc Json} (h : HasDistinctNames (.obj members)) :
    members.keys.Nodup := by
  cases h with
  | obj hnodup _ => exact hnodup

theorem HasDistinctNames.of_get? {members : Assoc Json} {name : String}
    (h : HasDistinctNames (.obj members)) (hget : members.get? name = some v) :
    v.HasDistinctNames := by
  cases h with
  | obj _ hall => exact hall (name, v) (Assoc.mem_of_get? hget)

/-- Different names are a matter of the parts and of one object at a time. -/
theorem isInductive_hasDistinctNames : IsInductive HasDistinctNames where
  null := .null
  bool := .bool
  int _ := .int _
  real := .real
  str := .str
  arr := .arr
  obj := .obj

/-- **Every object in a value that is read has different names.** -/
theorem hasDistinctNames_of_read {depth : Nat} {text : String} (h : read depth text = .ok v) :
    v.HasDistinctNames :=
  isInductive_hasDistinctNames.of_read h

end Json
end TrackingPlan
