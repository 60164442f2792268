import TrackingPlan.Text.Blank
import TrackingPlan.Text.Lines

/-!
# Splitting and joining lines

A line feed between two texts puts the lines of the one before those of the other, and joining
texts by line feeds puts the lines of all of them in order. No line has a line feed in it, so the
lines that are made of texts without one are those texts again. A text without a line feed that is
put before or after another one goes to its first or its last line.

Key theorems: `lines_append_newline`, `lines_unlines`, `lines_unlines_of_plain`,
`lines_append_left`, `lines_append_right`, `mapLines_append_newline`, `lines_mapLines`.
-/

namespace TrackingPlan
namespace Text

theorem lines_ne_nil (s : List Char) : lines s ≠ [] := List.splitOn_ne_nil '\n' s

theorem lines_of_plain {s : List Char} (h : '\n' ∉ s) : lines s = [s] := List.splitOn_eq_singleton h

theorem lines_append_newline (a b : List Char) : lines (a ++ '\n' :: b) = lines a ++ lines b :=
  List.splitOn_append_cons_self a b

theorem unlines_cons (l : List Char) {ls : List (List Char)} (h : ls ≠ []) :
    unlines (l :: ls) = l ++ '\n' :: unlines ls := by
  rw [unlines, List.intercalate_cons_of_ne_nil h, List.append_assoc]
  rfl

theorem unlines_singleton (l : List Char) : unlines [l] = l := List.intercalate_singleton

theorem unlines_append : ∀ {xs ys : List (List Char)}, xs ≠ [] → ys ≠ [] →
    unlines (xs ++ ys) = unlines xs ++ '\n' :: unlines ys
  | [x], ys, _, hys => by
    rw [List.singleton_append, unlines_cons x hys, unlines_singleton]
  | x :: x' :: xs, ys, _, hys => by
    have ih : unlines (x' :: xs ++ ys) = unlines (x' :: xs) ++ '\n' :: unlines ys :=
      unlines_append (List.cons_ne_nil x' xs) hys
    rw [List.cons_append, unlines_cons x (by simp), ih, unlines_cons x (List.cons_ne_nil x' xs),
      List.append_assoc, List.cons_append]

theorem unlines_append_cons (p l : List Char) (ls : List (List Char)) :
    unlines ((p ++ l) :: ls) = p ++ unlines (l :: ls) := by
  cases ls with
  | nil => rw [unlines_singleton, unlines_singleton]
  | cons l' ls =>
    rw [unlines_cons _ (List.cons_ne_nil l' ls), unlines_cons _ (List.cons_ne_nil l' ls),
      List.append_assoc]

theorem unlines_concat_append (ls : List (List Char)) (l p : List Char) :
    unlines (ls ++ [l ++ p]) = unlines (ls ++ [l]) ++ p := by
  cases ls with
  | nil => exact (unlines_singleton _).trans (by rw [List.nil_append, unlines_singleton])
  | cons l' ls =>
    rw [unlines_append (List.cons_ne_nil l' ls) (List.cons_ne_nil _ _),
      unlines_append (List.cons_ne_nil l' ls) (List.cons_ne_nil _ _), unlines_singleton,
      unlines_singleton, List.append_assoc, List.cons_append]

/-- The lines of joined texts are the lines of each of them. -/
theorem lines_unlines : ∀ {ls : List (List Char)}, ls ≠ [] → lines (unlines ls) = ls.flatMap lines
  | [l], _ => by
    rw [unlines_singleton, List.flatMap_cons, List.flatMap_nil, List.append_nil]
  | l :: l' :: ls, _ => by
    rw [unlines_cons l (List.cons_ne_nil l' ls), lines_append_newline,
      lines_unlines (List.cons_ne_nil l' ls)]
    rfl

theorem unlines_lines (s : List Char) : unlines (lines s) = s := List.intercalate_splitOn '\n'

theorem flatMap_lines_of_plain : ∀ {ls : List (List Char)}, (∀ l ∈ ls, '\n' ∉ l) →
    ls.flatMap lines = ls
  | [], _ => rfl
  | l :: ls, h => by
    have hl : lines l = [l] := lines_of_plain (h l List.mem_cons_self)
    have ih : ls.flatMap lines = ls :=
      flatMap_lines_of_plain fun l' hl' => h l' (List.mem_cons_of_mem l hl')
    rw [List.flatMap_cons, hl, ih, List.singleton_append]

theorem lines_unlines_of_plain {ls : List (List Char)} (hne : ls ≠ []) (h : ∀ l ∈ ls, '\n' ∉ l) :
    lines (unlines ls) = ls := by
  rw [lines_unlines hne, flatMap_lines_of_plain h]

/-- The parts between the places of a character have only other characters of the text. -/
theorem mem_of_mem_splitOn {x c : Char} : ∀ {s l : List Char}, l ∈ s.splitOn x → c ∈ l →
    c ∈ s ∧ c ≠ x
  | [], l, hl, hc => by
    rw [List.splitOn_nil, List.mem_singleton] at hl
    exact absurd (hl ▸ hc) List.not_mem_nil
  | y :: s, l, hl, hc => by
    obtain ⟨first, rest, hs⟩ := List.exists_cons_of_ne_nil (List.splitOn_ne_nil x s)
    have hpart : ∀ l' ∈ first :: rest, c ∈ l' → c ∈ y :: s ∧ c ≠ x := fun l' hl' hc' =>
      (mem_of_mem_splitOn (hs.symm ▸ hl') hc').imp_left (List.mem_cons_of_mem y)
    rw [List.splitOn_cons_eq_if_modifyHead, hs, List.modifyHead_cons] at hl
    split at hl
    · rcases List.mem_cons.mp hl with rfl | hl
      · exact absurd hc List.not_mem_nil
      · exact hpart l hl hc
    · rename_i hy
      rcases List.mem_cons.mp hl with rfl | hl
      · rcases List.mem_cons.mp hc with rfl | hc
        · exact ⟨List.mem_cons_self, fun h => hy (beq_iff_eq.mpr h)⟩
        · exact hpart first List.mem_cons_self hc
      · exact hpart l (List.mem_cons_of_mem first hl) hc

/-- No line has a line feed in it. -/
theorem plain_of_mem_lines {s l : List Char} (h : l ∈ lines s) : '\n' ∉ l :=
  fun hmem => (mem_of_mem_splitOn h hmem).2 rfl

/-- What is put before a text goes to its first line. -/
theorem lines_append_left {p : List Char} (h : '\n' ∉ p) (s : List Char) :
    ∃ l ls, lines s = l :: ls ∧ lines (p ++ s) = (p ++ l) :: ls := by
  obtain ⟨l, ls, hs⟩ := List.exists_cons_of_ne_nil (lines_ne_nil s)
  refine ⟨l, ls, hs, ?_⟩
  have hplain : ∀ x ∈ (p ++ l) :: ls, '\n' ∉ x := by
    have hlines : ∀ x ∈ l :: ls, '\n' ∉ x := fun x hx => plain_of_mem_lines (hs.symm ▸ hx)
    rw [List.forall_mem_cons] at hlines ⊢
    exact ⟨by simp [h, hlines.1], hlines.2⟩
  have hjoin : unlines ((p ++ l) :: ls) = p ++ s := by
    rw [unlines_append_cons, ← hs, unlines_lines]
  rw [← hjoin, lines_unlines_of_plain (List.cons_ne_nil _ _) hplain]

/-- What is put after a text goes to its last line. -/
theorem lines_append_right {p : List Char} (h : '\n' ∉ p) (s : List Char) :
    ∃ ls l, lines s = ls ++ [l] ∧ lines (s ++ p) = ls ++ [l ++ p] := by
  obtain ⟨ls, l, hs⟩ := (List.eq_nil_or_concat (lines s)).resolve_left (lines_ne_nil s)
  rw [List.concat_eq_append] at hs
  refine ⟨ls, l, hs, ?_⟩
  have hplain : ∀ x ∈ ls ++ [l ++ p], '\n' ∉ x := by
    have hlines : ∀ x ∈ ls ++ [l], '\n' ∉ x := fun x hx => plain_of_mem_lines (hs.symm ▸ hx)
    simp only [List.forall_mem_append, List.forall_mem_singleton] at hlines ⊢
    exact ⟨hlines.1, by simp [h, hlines.2]⟩
  have hjoin : unlines (ls ++ [l ++ p]) = s ++ p := by
    rw [unlines_concat_append, ← hs, unlines_lines]
  rw [← hjoin, lines_unlines_of_plain (by simp) hplain]

/-! ### Every line replaced -/

theorem mapLines_append_newline (f : Nat → List Char → List Char) (a b : List Char) :
    mapLines f (a ++ '\n' :: b) =
      mapLines f a ++ '\n' :: mapLines (fun i => f (i + (lines a).length)) b := by
  rw [mapLines, lines_append_newline, List.mapIdx_append, unlines_append]
  · rfl
  · exact List.mapIdx_ne_nil_iff.mpr (lines_ne_nil a)
  · exact List.mapIdx_ne_nil_iff.mpr (lines_ne_nil b)

/-- The lines afterwards are the lines replaced, when no line feed is put in. -/
theorem lines_mapLines {f : Nat → List Char → List Char} {s : List Char}
    (h : ∀ i l, '\n' ∉ l → '\n' ∉ f i l) : lines (mapLines f s) = (lines s).mapIdx f := by
  refine lines_unlines_of_plain (List.mapIdx_ne_nil_iff.mpr (lines_ne_nil s)) fun l hl => ?_
  obtain ⟨i, hi, rfl⟩ := List.mem_mapIdx.mp hl
  exact h i _ (plain_of_mem_lines (List.getElem_mem hi))

/-! ### Ends of lines -/

theorem trimEnd_sublist (p : Char → Bool) (s : List Char) : (trimEnd p s).Sublist s := by
  have h : (trimEnd p s).reverse.Sublist s.reverse := by
    rw [trimEnd, List.reverse_reverse]
    exact List.dropWhile_sublist p
  exact List.reverse_sublist.mp h

/-- What is taken from the end of a text is of the class. -/
theorem exists_trimEnd_append (p : Char → Bool) (s : List Char) :
    ∃ w, s = trimEnd p s ++ w ∧ w.all p := by
  refine ⟨(s.reverse.takeWhile p).reverse, ?_, ?_⟩
  · rw [trimEnd, ← List.reverse_append, List.takeWhile_append_dropWhile, List.reverse_reverse]
  · rw [List.all_reverse, List.all_takeWhile]

theorem trimEnd_of_all {p : Char → Bool} {s : List Char} (h : s.all p) : trimEnd p s = [] := by
  have hreverse : ∀ c ∈ s.reverse, p c := fun c hc =>
    List.all_eq_true.mp h c (List.mem_reverse.mp hc)
  have hdrop : (s.reverse ++ []).dropWhile p = [] := List.dropWhile_append_of_pos hreverse
  rw [List.append_nil] at hdrop
  rw [trimEnd, hdrop]
  rfl

/-- Nothing is left exactly of a text that is of the class. -/
theorem trimEnd_eq_nil_iff {p : Char → Bool} {s : List Char} : trimEnd p s = [] ↔ s.all p := by
  refine ⟨fun h => ?_, trimEnd_of_all⟩
  obtain ⟨w, hs, hw⟩ := exists_trimEnd_append p s
  rw [h, List.nil_append] at hs
  exact hs ▸ hw

/-- What is left of a text does not end in the class. -/
theorem getLast?_trimEnd {p : Char → Bool} {c : Char} {s : List Char}
    (h : (trimEnd p s).getLast? = some c) : p c = false := by
  rw [trimEnd, List.getLast?_reverse] at h
  have hhead := List.head?_dropWhile_not p s.reverse
  rw [h] at hhead
  exact hhead

/-- A text keeps its end when the last character is not of the class. -/
theorem trimEnd_concat {p : Char → Bool} {c : Char} (h : p c = false) (s : List Char) :
    trimEnd p (s ++ [c]) = s ++ [c] := by
  rw [trimEnd, List.reverse_append, List.reverse_singleton, List.singleton_append,
    List.dropWhile_cons_of_neg (by simp [h]), List.reverse_cons, List.reverse_reverse]

theorem trimEnd_trimEnd (p : Char → Bool) (s : List Char) :
    trimEnd p (trimEnd p s) = trimEnd p s := by
  rcases List.eq_nil_or_concat (trimEnd p s) with h | ⟨init, last, h⟩
  · rw [h]
    rfl
  · rw [List.concat_eq_append] at h
    have hlast : (trimEnd p s).getLast? = some last := by rw [h, List.getLast?_concat]
    rw [h, trimEnd_concat (getLast?_trimEnd hlast)]

/-- White space is taken from the end of a text after a character that is none. -/
theorem trimEnd_append {p : Char → Bool} {c : Char} (h : p c = false) (a s : List Char) :
    trimEnd p (a ++ [c] ++ s) = a ++ [c] ++ trimEnd p s := by
  have hkept : (a ++ [c]).reverse.dropWhile p = (a ++ [c]).reverse := by
    rw [List.reverse_append, List.reverse_singleton, List.singleton_append,
      List.dropWhile_cons_of_neg (by simp [h])]
  rw [trimEnd, List.reverse_append, List.dropWhile_append, hkept]
  split
  · rename_i hempty
    rw [List.reverse_reverse, trimEnd, List.isEmpty_iff.mp hempty, List.reverse_nil,
      List.append_nil]
  · rw [List.reverse_append, List.reverse_reverse, trimEnd]

end Text
end TrackingPlan
