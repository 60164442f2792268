import Mathlib.Data.List.Forall2

/-!
# Lists that agree item by item

Consequences of a relation between the items of two lists at the same places.

Key theorems: `Pairing.exists_left`, `Pairing.nodup_right`, `Pairing.sublist_flatMap`.
-/

namespace TrackingPlan
namespace Pairing

variable {α β γ : Type} {R : α → β → Prop} {xs : List α} {ys : List β}

theorem exists_left (h : List.Forall₂ R xs ys) {y : β} (hy : y ∈ ys) : ∃ x ∈ xs, R x y := by
  induction h with
  | nil => exact absurd hy List.not_mem_nil
  | @cons x y' xs ys hxy _ ih =>
    rcases List.mem_cons.mp hy with rfl | hy
    · exact ⟨x, List.mem_cons_self, hxy⟩
    · obtain ⟨x', hx', hr⟩ := ih hy
      exact ⟨x', List.mem_cons_of_mem x hx', hr⟩

theorem exists_right (h : List.Forall₂ R xs ys) {x : α} (hx : x ∈ xs) : ∃ y ∈ ys, R x y :=
  exists_left h.flip hx

theorem eq_map (h : List.Forall₂ R xs ys) {f : α → β} (hR : ∀ {x y}, R x y → f x = y) :
    ys = xs.map f := by
  induction h with
  | nil => rfl
  | cons hxy _ ih => rw [List.map_cons, hR hxy, ← ih]

theorem mono_of_mem {S : α → β → Prop} (h : List.Forall₂ R xs ys)
    (hR : ∀ {x y}, x ∈ xs → R x y → S x y) : List.Forall₂ S xs ys := by
  induction h with
  | nil => exact .nil
  | cons hxy _ ih =>
    exact .cons (hR List.mem_cons_self hxy) (ih fun hx => hR (List.mem_cons_of_mem _ hx))

theorem trans {S : β → γ → Prop} {T : α → γ → Prop} {zs : List γ} (h : List.Forall₂ R xs ys)
    (h' : List.Forall₂ S ys zs) (hT : ∀ {x y z}, R x y → S y z → T x z) :
    List.Forall₂ T xs zs := by
  induction h generalizing zs with
  | nil =>
    cases h'
    exact .nil
  | cons hxy _ ih =>
    cases h' with
    | cons hyz hrest => exact .cons (hT hxy hyz) (ih hrest)

theorem exists_of_forall : ∀ {xs : List α}, (∀ x ∈ xs, ∃ y, R x y) → ∃ ys, List.Forall₂ R xs ys
  | [], _ => ⟨[], .nil⟩
  | x :: xs, h => by
    obtain ⟨y, hy⟩ := h x List.mem_cons_self
    obtain ⟨ys, hys⟩ := exists_of_forall fun x' hx' => h x' (List.mem_cons_of_mem x hx')
    exact ⟨y :: ys, .cons hy hys⟩

/-- What is an image of something item by item is the image of a list. -/
theorem exists_lift {S : α → γ → Prop} {g : γ → β} (h : List.Forall₂ R xs ys)
    (hR : ∀ {x y}, R x y → ∃ z, S x z ∧ g z = y) : ∃ zs, List.Forall₂ S xs zs ∧ zs.map g = ys := by
  induction h with
  | nil => exact ⟨[], .nil, rfl⟩
  | cons hxy _ ih =>
    obtain ⟨z, hz, rfl⟩ := hR hxy
    obtain ⟨zs, hzs, rfl⟩ := ih
    exact ⟨z :: zs, .cons hz hzs, rfl⟩

theorem exists_zip (h : List.Forall₂ R xs ys) {x : α} (hx : x ∈ xs) : ∃ y, (x, y) ∈ xs.zip ys := by
  induction h with
  | nil => exact absurd hx List.not_mem_nil
  | @cons x' y xs ys _ _ ih =>
    rcases List.mem_cons.mp hx with rfl | hx
    · exact ⟨y, List.mem_cons_self⟩
    · obtain ⟨y', hy'⟩ := ih hx
      exact ⟨y', List.mem_cons_of_mem _ hy'⟩

/-- Items that give something stand beside what they give. -/
theorem of_filterMap {f : α → Option β} {p : α → Bool} (hp : ∀ x, p x = (f x).isSome) :
    ∀ xs : List α, List.Forall₂ (fun x y => f x = some y) (xs.filter p) (xs.filterMap f)
  | [] => .nil
  | x :: xs => by
    rw [List.filter_cons, List.filterMap_cons, hp]
    cases hx : f x with
    | none => exact of_filterMap hp xs
    | some y => exact .cons hx (of_filterMap hp xs)

theorem findSome?_eq (h : List.Forall₂ R xs ys) {f : α → Option γ} {g : β → Option γ}
    (hR : ∀ {x y}, R x y → f x = g y) : xs.findSome? f = ys.findSome? g := by
  induction h with
  | nil => rfl
  | cons hxy _ ih => rw [List.findSome?_cons, List.findSome?_cons, hR hxy, ih]

/-- Items that have different partners are different. -/
theorem nodup_right (h : List.Forall₂ R xs ys) (hR : ∀ {x x' y}, R x y → R x' y → x = x')
    (hn : xs.Nodup) : ys.Nodup := by
  induction h with
  | nil => exact List.nodup_nil
  | @cons x y xs ys hxy hrest ih =>
    rw [List.nodup_cons] at hn
    refine List.nodup_cons.mpr ⟨fun hy => ?_, ih hn.2⟩
    obtain ⟨x', hx', hx'y⟩ := exists_left hrest hy
    exact hn.1 (hR hxy hx'y ▸ hx')

/-- Parts that each stand in order in the whole beside them stand in order together. -/
theorem sublist_flatMap {f : α → List γ} {g : β → List γ} (h : List.Forall₂ R xs ys)
    (hR : ∀ {x y}, R x y → (f x).Sublist (g y)) : (xs.flatMap f).Sublist (ys.flatMap g) := by
  induction h with
  | nil => exact List.Sublist.refl _
  | cons hxy _ ih =>
    rw [List.flatMap_cons, List.flatMap_cons]
    exact (hR hxy).append ih

end Pairing
end TrackingPlan
