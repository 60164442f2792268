import TrackingPlan.Json.Display
import TrackingPlan.Json.Limits
import TrackingPlan.Proofs.Json.Kinds
import TrackingPlan.Proofs.Steps

/-!
# What was read can be written

A value has a text when none of its integers has too many digits. As no longer integer is read,
every value that was read can be shown to people.

Key definition: `Json.IsWritable`.
Key theorems: `Json.isWritable_of_read`, `Json.exists_display?`, `Json.displayNames?_eq_some`.
-/

namespace TrackingPlan
namespace Json

open Steps

/-- The integers of the value are short enough to be written. -/
def IsWritable (v : Json) : Prop := v.longestInteger ≤ maxIntegerDigits

instance (v : Json) : Decidable v.IsWritable := inferInstanceAs (Decidable (_ ≤ _))

theorem isWritable_arr_iff {items : List Json} :
    IsWritable (arr items) ↔ ∀ v ∈ items, IsWritable v := by
  show longestOfItems items ≤ maxIntegerDigits ↔ _
  induction items with
  | nil => simp [longestOfItems]
  | cons x rest ih =>
    rw [longestOfItems, Nat.max_le, List.forall_mem_cons, ih]
    rfl

theorem isWritable_obj_iff {members : List (String × Json)} :
    IsWritable (obj members) ↔ ∀ p ∈ members, IsWritable p.2 := by
  show longestOfMembers members ≤ maxIntegerDigits ↔ _
  induction members with
  | nil => simp [longestOfMembers]
  | cons p rest ih =>
    rw [longestOfMembers, Nat.max_le, List.forall_mem_cons, ih]
    rfl

theorem isInductive_isWritable : IsInductive IsWritable where
  null := Nat.zero_le _
  bool _ := Nat.zero_le _
  int h := h
  real _ := Nat.zero_le _
  str _ := Nat.zero_le _
  arr h := isWritable_arr_iff.mpr h
  obj _ h := isWritable_obj_iff.mpr h

/-- **A value that was read can be written.** -/
theorem isWritable_of_read {depth : Nat} {text : String} {v : Json} (h : read depth text = .ok v) :
    v.IsWritable :=
  isInductive_isWritable.of_read h

mutual

theorem exists_inner? : ∀ {v : Json}, v.IsWritable → ∃ text, v.inner? = some text
  | null, _ => ⟨_, rfl⟩
  | bool _, _ => ⟨_, rfl⟩
  | int _, h => ⟨_, if_pos h⟩
  | real _, _ => ⟨_, rfl⟩
  | str _, _ => ⟨_, rfl⟩
  | arr items, h => by
    have hitems : longestOfItems items ≤ maxIntegerDigits := h
    obtain ⟨text, htext⟩ := exists_innerItems? hitems
    exact ⟨_, by rw [inner?, htext]; rfl⟩
  | obj members, h => by
    have hmembers : longestOfMembers members ≤ maxIntegerDigits := h
    obtain ⟨text, htext⟩ := exists_innerMembers? hmembers
    exact ⟨_, by rw [inner?, htext]; rfl⟩

theorem exists_innerItems? : ∀ {items : List Json}, longestOfItems items ≤ maxIntegerDigits →
    ∃ text, innerItems? items = some text
  | [], _ => ⟨_, rfl⟩
  | x :: rest, h => by
    rw [longestOfItems, Nat.max_le] at h
    obtain ⟨first, hfirst⟩ := exists_inner? (v := x) h.1
    obtain ⟨others, hothers⟩ := exists_innerItems? h.2
    exact ⟨_, by rw [innerItems?, hfirst, hothers]; rfl⟩

theorem exists_innerMembers? : ∀ {members : List (String × Json)},
    longestOfMembers members ≤ maxIntegerDigits → ∃ text, innerMembers? members = some text
  | [], _ => ⟨_, rfl⟩
  | (_, x) :: rest, h => by
    rw [longestOfMembers, Nat.max_le] at h
    obtain ⟨first, hfirst⟩ := exists_inner? (v := x) h.1
    obtain ⟨others, hothers⟩ := exists_innerMembers? h.2
    exact ⟨_, by rw [innerMembers?, hfirst, hothers]; rfl⟩

end

/-- **A value with short integers can be shown.** -/
theorem exists_display? {v : Json} (h : v.IsWritable) : ∃ text, v.display? = some text := by
  cases v with
  | str s => exact ⟨s, rfl⟩
  | _ => exact exists_inner? h

/-! ### Shown names -/

/-- The pairs stay as they are, but for what is shown of their names. -/
theorem displayNames?_eq_some {pairs : List (Json × String)} {shown : List (String × String)} :
    displayNames? pairs = some shown ↔
      List.Forall₂ (fun p q => p.1.display? = some q.1 ∧ p.2 = q.2) pairs shown := by
  have hpair (p : Json × String) (q : String × String) :
      (do return (← p.1.display?, p.2)) = some q ↔ p.1.display? = some q.1 ∧ p.2 = q.2 := by
    simp only [Option.bind_eq_bind, Option.bind_eq_some_iff, Option.pure_def, Option.some.injEq]
    constructor
    · rintro ⟨name, hname, rfl⟩
      exact ⟨hname, rfl⟩
    · rintro ⟨hname, htext⟩
      exact ⟨q.1, hname, Prod.ext rfl htext⟩
  rw [displayNames?, mapM_eq_some]
  exact ⟨fun h => h.imp fun p q => (hpair p q).mp, fun h => h.imp fun p q => (hpair p q).mpr⟩

/-- The first pairs are shown first, with the same texts. -/
theorem exists_append_of_displayNames? {first rest : List (Json × String)}
    {shown : List (String × String)} (h : displayNames? (first ++ rest) = some shown) :
    ∃ first' rest', shown = first' ++ rest' ∧
      List.Forall₂ (fun p q => p.2 = q.2) first first' := by
  have hpairs := (displayNames?_eq_some.mp h).flip
  refine ⟨shown.take first.length, shown.drop first.length, (List.take_append_drop _ _).symm, ?_⟩
  exact (List.forall₂_take_append shown first rest hpairs).flip.imp fun _ _ hpair => hpair.2

end Json
end TrackingPlan
