import Mathlib.Data.List.Nodup
import TrackingPlan.Assoc

/-!
# Look-ups in ordered tables

Setting a name changes the value of that name only. Where no name is repeated, a table is known by
its names and what it gives for each of them.

Key theorems: `Assoc.get?_set`, `Assoc.ofPairs_eq`, `Assoc.ext_of_keys`, `Assoc.get?_update`,
`Assoc.update_eq`, `Assoc.filter_foldl_set`.
-/

namespace TrackingPlan
namespace Assoc

variable {α : Type}

theorem get?_nil (name : String) : get? ([] : Assoc α) name = none := rfl

theorem get?_cons (n : String) (v : α) (t : Assoc α) (name : String) :
    get? ((n, v) :: t) name = if name = n then some v else get? t name := by
  unfold get?
  rw [List.lookup_cons]
  by_cases h : name = n
  · rw [if_pos h, beq_iff_eq.mpr h]
  · rw [if_neg h, beq_eq_false_iff_ne.mpr h]

theorem get?_append (t u : Assoc α) (name : String) :
    get? (t ++ u) name = (get? t name).or (get? u name) := List.lookup_append

/-- A table after a name was set: the new value for that name, and the old one for every other. -/
theorem get?_set : ∀ (t : Assoc α) (name : String) (value : α) (asked : String),
    get? (set t name value) asked = if asked = name then some value else get? t asked
  | [], name, value, asked => by rw [set, get?_cons]
  | (n, v) :: t, name, value, asked => by
    rw [set]
    by_cases hn : n = name
    · rw [if_pos hn, get?_cons, get?_cons, hn]
      by_cases ha : asked = name
      · rw [if_pos ha, if_pos ha]
      · rw [if_neg ha, if_neg ha, if_neg ha]
    · rw [if_neg hn, get?_cons, get?_cons, get?_set t name value asked]
      by_cases ha : asked = n
      · rw [if_pos ha, if_pos ha, if_neg (ha ▸ hn)]
      · rw [if_neg ha, if_neg ha]

/-- A name that is not there goes to the end. -/
theorem set_of_not_mem : ∀ {t : Assoc α} {name : String} (value : α), name ∉ keys t →
    set t name value = t ++ [(name, value)]
  | [], _, _, _ => rfl
  | (n, v) :: t, name, value, h => by
    have hname : ¬ n = name := fun heq => h (heq ▸ List.mem_cons_self)
    have hrest : name ∉ keys t := fun hmem => h (List.mem_cons_of_mem n hmem)
    rw [set, if_neg hname, set_of_not_mem value hrest, List.cons_append]

theorem update_append : ∀ {t u : Assoc α}, (keys (t ++ u)).Nodup → update t u = t ++ u
  | t, [], _ => (List.append_nil t).symm
  | t, (n, v) :: u, h => by
    have hname : n ∉ keys t := by
      rw [keys, List.map_append, List.nodup_append] at h
      exact fun hmem => h.2.2 n hmem n List.mem_cons_self rfl
    have hmove : t ++ (n, v) :: u = (t ++ [(n, v)]) ++ u := by simp
    rw [hmove] at h ⊢
    rw [← update_append h, ← set_of_not_mem v hname]
    rfl

/-- A list of pairs with different names is a table as it is. -/
theorem ofPairs_eq {t : Assoc α} (h : t.keys.Nodup) : ofPairs t = t := update_append h

/-! ### The names of tables -/

theorem get?_eq_none {name : String} : ∀ {t : Assoc α}, get? t name = none ↔ name ∉ keys t
  | [] => by simp [get?_nil, keys]
  | (n, v) :: t => by
    rw [get?_cons, keys, List.map_cons, List.mem_cons]
    by_cases h : name = n
    · simp [h]
    · rw [if_neg h, get?_eq_none, keys]
      simp [h]

theorem exists_get? {t : Assoc α} {name : String} (h : name ∈ keys t) : ∃ v, get? t name = some v :=
  Option.ne_none_iff_exists'.mp fun hnone => get?_eq_none.mp hnone h

theorem has_iff {t : Assoc α} {name : String} : has t name ↔ name ∈ keys t := by
  rw [has, Option.isSome_iff_ne_none, ne_eq, get?_eq_none, not_not]

theorem mem_of_get? : ∀ {t : Assoc α} {name : String} {value : α},
    get? t name = some value → (name, value) ∈ t
  | [], _, _, h => nomatch h
  | (n, v) :: t, name, value, h => by
    rw [get?_cons] at h
    split at h
    · rename_i hname
      exact hname ▸ Option.some.inj h ▸ List.mem_cons_self
    · exact List.mem_cons_of_mem _ (mem_of_get? h)

/-- Where no name is repeated every pair is found. -/
theorem get?_of_mem : ∀ {t : Assoc α} {name : String} {value : α}, (keys t).Nodup →
    (name, value) ∈ t → get? t name = some value
  | [], _, _, _, h => absurd h List.not_mem_nil
  | (n, v) :: t, name, value, hnodup, h => by
    obtain ⟨hfresh, hnodup⟩ := List.nodup_cons.mp hnodup
    rw [get?_cons]
    rcases List.mem_cons.mp h with hfirst | hrest
    · obtain ⟨rfl, rfl⟩ := Prod.mk.inj hfirst
      rw [if_pos rfl]
    · have hname : name ∈ keys t := List.mem_map_of_mem hrest
      have hother : name ≠ n := fun heq => hfresh (heq ▸ hname)
      rw [if_neg hother, get?_of_mem hnodup hrest]

/-- The order of a table does not count where no name is repeated. -/
theorem get?_perm {t u : Assoc α} (hnodup : (keys t).Nodup) (h : t.Perm u) (name : String) :
    get? t name = get? u name := by
  have hnodup' : (keys u).Nodup := (h.map _).nodup_iff.mp hnodup
  have hiff {s : Assoc α} (hs : (keys s).Nodup) (value : α) :
      get? s name = some value ↔ (name, value) ∈ s := ⟨mem_of_get?, get?_of_mem hs⟩
  refine Option.ext fun value => ?_
  rw [hiff hnodup, hiff hnodup', h.mem_iff]

/-- Tables with the same names in the same order are the same when they agree on every name. -/
theorem ext_of_keys : ∀ {t u : Assoc α}, keys t = keys u → (keys u).Nodup →
    (∀ name ∈ keys u, get? t name = get? u name) → t = u
  | [], [], _, _, _ => rfl
  | [], _ :: _, h, _, _ => nomatch h
  | _ :: _, [], h, _, _ => nomatch h
  | (n, v) :: t, (m, w) :: u, hkeys, hnodup, hget => by
    obtain ⟨rfl, hrest⟩ := List.cons.inj hkeys
    obtain ⟨hfresh, hnodup⟩ := List.nodup_cons.mp hnodup
    have hvalue : some v = some w := by
      have hfirst := hget n List.mem_cons_self
      rwa [get?_cons, get?_cons, if_pos rfl, if_pos rfl] at hfirst
    have hothers : t = u := by
      refine ext_of_keys hrest hnodup fun name hname => ?_
      have hother : ¬ name = n := fun heq => hfresh (heq ▸ hname)
      have hboth := hget name (List.mem_cons_of_mem n hname)
      rwa [get?_cons, get?_cons, if_neg hother, if_neg hother] at hboth
    rw [hothers, Option.some.inj hvalue]

theorem keys_set : ∀ (t : Assoc α) (name : String) (value : α),
    keys (set t name value) = if name ∈ keys t then keys t else keys t ++ [name]
  | [], _, _ => rfl
  | (n, v) :: t, name, value => by
    by_cases h : n = name
    · rw [set, if_pos h, if_pos (h ▸ List.mem_cons_self)]
      rfl
    · have hmem : name ∈ keys ((n, v) :: t) ↔ name ∈ keys t := by simp [keys, Ne.symm h]
      rw [set, if_neg h, if_congr hmem rfl rfl]
      show n :: keys (set t name value) = _
      rw [keys_set t name value]
      split <;> rfl

theorem has_set {t : Assoc α} {name asked : String} {value : α} :
    has (set t name value) asked ↔ asked = name ∨ has t asked := by
  rw [has_iff, has_iff, keys_set]
  split
  · rename_i h
    exact ⟨.inr, fun hor => hor.elim (fun heq => heq ▸ h) id⟩
  · rw [List.mem_append, List.mem_singleton, or_comm]

theorem mem_set : ∀ {t : Assoc α} {name : String} {value : α} {p : String × α},
    p ∈ set t name value → p = (name, value) ∨ p ∈ t
  | [], _, _, _, h => .inl (List.mem_singleton.mp h)
  | (n, v) :: t, name, value, p, h => by
    rw [set] at h
    split at h
    · rename_i hn
      exact (List.mem_cons.mp h).imp (fun heq => hn ▸ heq) (List.mem_cons_of_mem _)
    · rcases List.mem_cons.mp h with hfirst | hrest
      · exact .inr (hfirst ▸ List.mem_cons_self)
      · exact (mem_set hrest).imp id (List.mem_cons_of_mem _)

theorem has_erase {t : Assoc α} {name asked : String} :
    has (erase t name) asked ↔ asked ≠ name ∧ has t asked := by
  simp only [has_iff, keys, erase, List.mem_map, List.mem_filter, decide_eq_true_eq]
  constructor
  · rintro ⟨p, ⟨hp, hother⟩, rfl⟩
    exact ⟨hother, p, hp, rfl⟩
  · rintro ⟨hother, p, hp, rfl⟩
    exact ⟨p, ⟨hp, hother⟩, rfl⟩

theorem has_of_has_erase {t : Assoc α} {name asked : String} (h : has (erase t name) asked) :
    has t asked :=
  (has_erase.mp h).2

/-- A part of a table repeats no name either. -/
theorem nodup_filter {t : Assoc α} (h : (keys t).Nodup) (p : String × α → Bool) :
    (keys (t.filter p)).Nodup :=
  h.sublist (List.filter_sublist.map Prod.fst)

/-- The part of a table with some of its names. -/
theorem get?_filter_keys (kept : String → Bool) (name : String) : ∀ t : Assoc α,
    get? (t.filter fun p => kept p.1) name = if kept name then get? t name else none
  | [] => by rw [List.filter_nil, get?_nil, ite_self]
  | (n, v) :: t => by
    rw [List.filter_cons]
    dsimp only
    by_cases hn : kept n = true
    · rw [if_pos hn, get?_cons, get?_cons, get?_filter_keys kept name t]
      by_cases hname : name = n
      · rw [if_pos hname, if_pos hname, hname, if_pos hn]
      · rw [if_neg hname, if_neg hname]
    · rw [if_neg hn, get?_filter_keys kept name t]
      by_cases hname : name = n
      · rw [hname, if_neg hn, if_neg hn]
      · rw [get?_cons, if_neg hname]

theorem nodup_set {t : Assoc α} (h : (keys t).Nodup) (name : String) (value : α) :
    (keys (set t name value)).Nodup := by
  rw [keys_set]
  split
  · exact h
  · rename_i hname
    exact List.nodup_append.mpr ⟨h, List.nodup_singleton name, fun k hk l hl heq =>
      hname (List.mem_singleton.mp hl ▸ heq ▸ hk)⟩

theorem subset_keys_set {t : Assoc α} {names : List String} {name : String}
    (h : keys t ⊆ names) (hname : name ∈ names) (value : α) : keys (set t name value) ⊆ names := by
  rw [keys_set]
  split
  · exact h
  · exact List.append_subset.mpr ⟨h, fun k hk => List.mem_singleton.mp hk ▸ hname⟩

/-- Setting a name to what it has changes nothing. -/
theorem set_eq_self {t : Assoc α} {name : String} {value : α} (hnodup : (keys t).Nodup)
    (h : get? t name = some value) : set t name value = t := by
  have hname : name ∈ keys t := by
    by_contra hnone
    exact Option.some_ne_none value (h.symm.trans (get?_eq_none.mpr hnone))
  refine ext_of_keys (by rw [keys_set, if_pos hname]) hnodup fun asked _ => ?_
  rw [get?_set]
  by_cases hasked : asked = name
  · rw [if_pos hasked, hasked, h]
  · rw [if_neg hasked]

/-! ### Tables put over tables -/

theorem nodup_update {t : Assoc α} (h : (keys t).Nodup) :
    ∀ u : Assoc α, (keys (update t u)).Nodup := by
  intro u
  induction u generalizing t with
  | nil => exact h
  | cons p u ih => exact ih (nodup_set h p.1 p.2)

/-- A pair of a table that was put over another one was in one of the two. -/
theorem mem_update {t u : Assoc α} {p : String × α} (h : p ∈ update t u) : p ∈ u ∨ p ∈ t := by
  induction u generalizing t with
  | nil => exact .inr h
  | cons q u ih =>
    rcases ih h with hu | ht
    · exact .inl (List.mem_cons_of_mem q hu)
    · rcases mem_set ht with rfl | ht
      · exact .inl List.mem_cons_self
      · exact .inr ht

theorem subset_keys_update {t u : Assoc α} {names : List String} (h : keys t ⊆ names)
    (hu : keys u ⊆ names) : keys (update t u) ⊆ names := by
  induction u generalizing t with
  | nil => exact h
  | cons p u ih =>
    have hcons := List.cons_subset.mp hu
    exact ih (subset_keys_set h hcons.1 p.2) hcons.2

/-- A table keeps its names when one with some of them is put over it. -/
theorem keys_update {t u : Assoc α} (h : keys u ⊆ keys t) : keys (update t u) = keys t := by
  induction u generalizing t with
  | nil => rfl
  | cons p u ih =>
    obtain ⟨hname, hrest⟩ := List.cons_subset.mp h
    have hkeys : keys (set t p.1 p.2) = keys t := by rw [keys_set, if_pos hname]
    show keys (update (set t p.1 p.2) u) = keys t
    rw [ih (hkeys ▸ hrest), hkeys]

theorem get?_update_of_not_mem {t u : Assoc α} {name : String} (h : name ∉ keys u) :
    get? (update t u) name = get? t name := by
  induction u generalizing t with
  | nil => rfl
  | cons p u ih =>
    have hfirst : name ≠ p.1 := fun heq => h (heq ▸ List.mem_cons_self)
    have hrest : name ∉ keys u := fun hmem => h (List.mem_cons_of_mem p.1 hmem)
    show get? (update (set t p.1 p.2) u) name = _
    rw [ih hrest, get?_set, if_neg hfirst]

/-- What was put over a table comes first. -/
theorem get?_update {t u : Assoc α} (h : (keys u).Nodup) (name : String) :
    get? (update t u) name = (get? u name).or (get? t name) := by
  induction u generalizing t with
  | nil => rfl
  | cons p u ih =>
    obtain ⟨hfresh, hnodup⟩ := List.nodup_cons.mp h
    show get? (update (set t p.1 p.2) u) name = _
    rw [ih hnodup, get?_set, get?_cons]
    by_cases hname : name = p.1
    · rw [if_pos hname, if_pos hname, hname, get?_eq_none.mpr hfresh]
      rfl
    · rw [if_neg hname, if_neg hname]

/-- A table is found again when one with its values is put over one with its names. -/
theorem update_eq {t u s : Assoc α} (hkeys : keys t = keys s) (hs : (keys s).Nodup)
    (hnodup : (keys u).Nodup) (hsubset : keys u ⊆ keys s)
    (hget : ∀ name ∈ keys s, get? u name = get? s name) : update t u = s := by
  refine ext_of_keys ((keys_update (hkeys ▸ hsubset)).trans hkeys) hs fun name hname => ?_
  obtain ⟨v, hv⟩ := exists_get? hname
  rw [get?_update hnodup, hget name hname, hv]
  rfl

/-! ### Names that are set and dropped -/

/-- What is left of a table does not tell that a name was set, when the name is left neither with
its new value nor with the one it had. -/
theorem filter_set {p : String × α → Bool} {name : String} {value : α}
    (hnew : p (name, value) = false) : ∀ {t : Assoc α}, (∀ q ∈ t, q.1 = name → p q = false) →
      (t.set name value).filter p = t.filter p
  | [], _ => List.filter_cons_of_neg (Bool.eq_false_iff.mp hnew)
  | (n, v) :: t, h => by
    obtain ⟨hfirst, hrest⟩ := List.forall_mem_cons.mp h
    rw [set]
    split
    · rename_i hn
      rw [List.filter_cons_of_neg (Bool.eq_false_iff.mp (hn ▸ hnew)),
        List.filter_cons_of_neg (Bool.eq_false_iff.mp (hfirst hn))]
    · rw [List.filter_cons, List.filter_cons, filter_set hnew hrest]

theorem erase_set (name : String) (value : α) (t : Assoc α) :
    (t.set name value).erase name = t.erase name :=
  filter_set (by simp) fun _ _ hname => by simp [hname]

/-- **Giving one value to some names** that are new or have it does not touch the other values. -/
theorem filter_foldl_set [DecidableEq α] {value : α} : ∀ {names : List String} {t : Assoc α},
    (∀ p ∈ t, p.1 ∈ names → p.2 = value) →
      (names.foldl (fun t name => t.set name value) t).filter (·.2 ≠ value) =
        t.filter (·.2 ≠ value)
  | [], _, _ => rfl
  | name :: names, t, h => by
    have hrest : ∀ p ∈ t.set name value, p.1 ∈ names → p.2 = value := by
      intro p hp hname
      rcases mem_set hp with rfl | hp
      · rfl
      · exact h p hp (List.mem_cons_of_mem name hname)
    rw [List.foldl_cons, filter_foldl_set hrest]
    exact filter_set (by simp) fun p hp hname => by simp [h p hp (hname ▸ List.mem_cons_self)]

theorem get?_foldl_set (value : α) (asked : String) : ∀ (names : List String) (t : Assoc α),
    (names.foldl (fun t name => t.set name value) t).get? asked =
      if asked ∈ names then some value else t.get? asked
  | [], _ => by simp
  | name :: names, t => by
    rw [List.foldl_cons, get?_foldl_set value asked names, get?_set]
    grind

end Assoc
end TrackingPlan
