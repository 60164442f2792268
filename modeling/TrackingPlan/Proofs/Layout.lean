import Mathlib.Data.List.Flatten
import TrackingPlan.Layout
import TrackingPlan.Proofs.Text.Lines

/-!
# What layout does to lines

A line that ends in a character other than white space goes through every layout: indentation
puts blanks in front of it, and tidying leaves it as it is. A line inside a text, neither the
first nor the last, also stays whole when other text is put before and after it.

Key definitions: `textLines`, `Settled`, `Encloses`.
Key theorems: `textLines_block`, `sublist_indent`, `Encloses.hang`, `Encloses.append`,
`sublist_spaced`, `sublist_tidy`.
-/

namespace TrackingPlan
namespace Layout

open Text

/-- The lines of a text. -/
def textLines (s : String) : List String := (lines s.toList).map String.ofList

/-- Blanks in a row. -/
def blanks (n : Nat) : String := String.ofList (List.replicate n ' ')

/-- A text on one line that ends in a character other than white space. -/
structure Settled (l : String) : Prop where
  plain : '\n' ∉ l.toList
  ending : ∃ init last, l.toList = init ++ [last] ∧ isBlank last = false

/-- The text has the lines inside, in order and neither at its start nor at its end. -/
def Encloses (s : String) (ls : List String) : Prop :=
  ∃ before inner after, s = before ++ "\n" ++ inner ++ "\n" ++ after ∧
    ls.Sublist (textLines inner)

variable {s : String} {ls : List String} {n : Nat}

theorem ofList_comp_toList : String.ofList ∘ String.toList = id :=
  funext fun _ => String.ofList_toList

theorem toList_comp_ofList : String.toList ∘ String.ofList = id :=
  funext fun _ => String.toList_ofList

theorem sublist_textLines :
    ls.Sublist (textLines s) ↔ (ls.map String.toList).Sublist (lines s.toList) := by
  constructor
  · intro h
    have hchars := h.map String.toList
    rwa [textLines, List.map_map, toList_comp_ofList, List.map_id] at hchars
  · intro h
    have hstrings := h.map String.ofList
    rwa [List.map_map, ofList_comp_toList, List.map_id] at hstrings

/-! ### Settled lines -/

namespace Settled

variable {l : String}

theorem textLines_eq (h : Settled l) : textLines l = [l] := by
  rw [textLines, lines_of_plain h.plain, List.map_singleton, String.ofList_toList]

theorem allBlank_eq (h : Settled l) : allBlank l.toList = false := by
  obtain ⟨init, last, hl, hlast⟩ := h.ending
  rw [hl, allBlank, List.all_append, List.all_cons, hlast, Bool.false_and, Bool.and_false]

theorem trimEnd_eq (h : Settled l) : trimEnd isBlank l.toList = l.toList := by
  obtain ⟨init, last, hl, hlast⟩ := h.ending
  rw [hl, trimEnd_concat hlast]

theorem ne_nil (h : Settled l) : l.toList ≠ [] := by
  obtain ⟨init, last, hl, -⟩ := h.ending
  rw [hl]
  exact List.concat_ne_nil last init

theorem append {a : String} (h : Settled l) (ha : '\n' ∉ a.toList) : Settled (a ++ l) where
  plain := by
    rw [String.toList_append, List.mem_append, not_or]
    exact ⟨ha, h.plain⟩
  ending := by
    obtain ⟨init, last, hl, hlast⟩ := h.ending
    exact ⟨a.toList ++ init, last, by rw [String.toList_append, hl, List.append_assoc], hlast⟩

theorem blanks_append (h : Settled l) (n : Nat) : Settled (blanks n ++ l) := by
  refine h.append fun hmem => ?_
  rw [blanks, String.toList_ofList, List.mem_replicate] at hmem
  exact absurd hmem.2 (by decide)

end Settled

theorem settled_flatMap {α : Type} {f : α → List String} (hs : ∀ x, ∀ l ∈ f x, Settled l)
    (xs : List α) : ∀ l ∈ xs.flatMap f, Settled l := by
  intro l hl
  obtain ⟨x, -, hl⟩ := List.mem_flatMap.mp hl
  exact hs x l hl

theorem settled_map_blanks (hs : ∀ l ∈ ls, Settled l) (n : Nat) :
    ∀ l ∈ ls.map (blanks n ++ ·), Settled l := by
  intro l hl
  obtain ⟨l', hl', rfl⟩ := List.mem_map.mp hl
  exact (hs l' hl').blanks_append n

theorem blanks_append_blanks (m n : Nat) (l : String) :
    blanks m ++ (blanks n ++ l) = blanks (m + n) ++ l := by
  rw [← String.append_assoc, blanks, blanks, blanks, ← String.ofList_append,
    List.replicate_append_replicate]

/-- Indentation of the parts adds to the indentation of the whole. -/
theorem map_blanks_flatten {α : Type} (f : α → List String) (m n : Nat) (xs : List α) :
    ((xs.map fun x => (f x).map (blanks n ++ ·)).flatten).map (blanks m ++ ·) =
      (xs.flatMap f).map (blanks (m + n) ++ ·) := by
  simp only [List.flatMap_def, List.map_flatten, List.map_map, Function.comp_def,
    blanks_append_blanks]

/-! ### Joined texts -/

theorem toList_append_newline (a b : String) :
    (a ++ "\n" ++ b).toList = a.toList ++ '\n' :: b.toList := by
  rw [String.toList_append, String.toList_append, List.append_assoc]
  rfl

theorem textLines_append_newline (a b : String) :
    textLines (a ++ "\n" ++ b) = textLines a ++ textLines b := by
  rw [textLines, toList_append_newline, lines_append_newline, List.map_append]
  rfl

theorem toList_block (ls : List String) : (block ls).toList = unlines (ls.map String.toList) :=
  String.toList_intercalate

/-- The lines of joined texts are the lines of each of them. -/
theorem textLines_block (h : ls ≠ []) : textLines (block ls) = ls.flatMap textLines := by
  rw [textLines, toList_block, lines_unlines (by simpa using h), List.flatMap_map,
    List.map_flatMap]
  rfl

theorem block_append {xs ys : List String} (hx : xs ≠ []) (hy : ys ≠ []) :
    block (xs ++ ys) = block xs ++ "\n" ++ block ys := by
  apply String.toList_injective
  rw [toList_block, List.map_append, unlines_append (by simpa using hx) (by simpa using hy),
    String.toList_append, String.toList_append, toList_block, toList_block, List.append_assoc]
  rfl

/-- A text encloses the lines of what is neither first nor last in it. -/
theorem encloses_block {xs ys zs : List String} (hx : xs ≠ []) (hy : ys ≠ []) (hz : zs ≠ [])
    (h : ls.Sublist (ys.flatMap textLines)) : Encloses (block (xs ++ ys ++ zs)) ls := by
  refine ⟨block xs, block ys, block zs, ?_, by rwa [textLines_block hy]⟩
  rw [block_append (by simp [hx]) hz, block_append hx hy]

namespace Encloses

theorem sublist (h : Encloses s ls) : ls.Sublist (textLines s) := by
  obtain ⟨before, inner, after, rfl, hls⟩ := h
  rw [textLines_append_newline, textLines_append_newline]
  exact hls.trans ((List.sublist_append_right _ _).trans (List.sublist_append_left _ _))

/-- Text that is put before and after leaves the lines inside whole. -/
theorem append (h : Encloses s ls) (a b : String) : Encloses (a ++ s ++ b) ls := by
  obtain ⟨before, inner, after, rfl, hls⟩ := h
  refine ⟨a ++ before, inner, after ++ b, ?_, hls⟩
  simp only [String.append_assoc]

end Encloses

/-! ### Indentation -/

theorem sublist_mapIdx {α β : Type} {xs ys : List α} (h : xs.Sublist ys) :
    ∀ {f : Nat → α → β} {g : α → β}, (∀ i, ∀ x ∈ xs, f i x = g x) →
      (xs.map g).Sublist (ys.mapIdx f) := by
  induction h with
  | slnil => exact fun _ => List.Sublist.refl _
  | cons y _ ih =>
    intro f g hfg
    rw [List.mapIdx_cons]
    exact (ih fun i => hfg (i + 1)).cons _
  | cons_cons x _ ih =>
    intro f g hfg
    rw [List.mapIdx_cons, List.map_cons, hfg 0 x List.mem_cons_self]
    exact (ih fun i y hy => hfg (i + 1) y (List.mem_cons_of_mem x hy)).cons_cons _

/-- Lines of a text are found replaced when every line is. -/
theorem sublist_mapLines {f : Nat → List Char → List Char} {g : String → String}
    (h : ls.Sublist (textLines s)) (hf : ∀ i l, '\n' ∉ l → '\n' ∉ f i l)
    (hg : ∀ i, ∀ l ∈ ls, f i l.toList = (g l).toList) :
    (ls.map g).Sublist (textLines (onText (mapLines f) s)) := by
  rw [sublist_textLines] at h ⊢
  rw [onText, String.toList_ofList, lines_mapLines hf]
  have hmap : (ls.map g).map String.toList =
      (ls.map String.toList).map fun l => (g (String.ofList l)).toList := by
    rw [List.map_map, List.map_map]
    exact List.map_congr_left fun l _ => by
      rw [Function.comp_apply, Function.comp_apply, String.ofList_toList]
  rw [hmap]
  refine sublist_mapIdx h fun i x hx => ?_
  obtain ⟨l, hl, rfl⟩ := List.mem_map.mp hx
  rw [hg i l hl, String.ofList_toList]

theorem onText_mapLines_append_newline (f : Nat → List Char → List Char) (a b : String) :
    onText (mapLines f) (a ++ "\n" ++ b) = onText (mapLines f) a ++ "\n" ++
      onText (mapLines fun i => f (i + (lines a.toList).length)) b := by
  rw [onText, toList_append_newline, mapLines_append_newline]
  apply String.toList_injective
  rw [toList_append_newline, onText, onText]
  simp only [String.toList_ofList]

theorem plain_indented {line : List Char} (h : '\n' ∉ line) (b : Bool) :
    '\n' ∉ if b then line else List.replicate n ' ' ++ line := by
  cases b with
  | true => exact h
  | false =>
    intro hmem
    rcases List.mem_append.mp hmem with hmem | hmem
    · exact absurd (List.mem_replicate.mp hmem).2 (by decide)
    · exact h hmem

theorem sublist_indent (h : ls.Sublist (textLines s)) (hs : ∀ l ∈ ls, Settled l) (n : Nat) :
    (ls.map (blanks n ++ ·)).Sublist (textLines (indent n s)) := by
  refine sublist_mapLines h (fun i l hl => plain_indented hl _) fun i l hl => ?_
  rw [(hs l hl).allBlank_eq, String.toList_append, blanks, String.toList_ofList]
  simp

/-- Lines inside a text are indented with it, also when its first line is left out. -/
theorem Encloses.hang (h : Encloses s ls) (hs : ∀ l ∈ ls, Settled l) (n : Nat) :
    Encloses (hang n s) (ls.map (blanks n ++ ·)) := by
  obtain ⟨before, inner, after, rfl, hls⟩ := h
  rw [Layout.hang, indentLines, onText_mapLines_append_newline, onText_mapLines_append_newline]
  refine ⟨_, _, _, rfl, sublist_mapLines hls (fun i l hl => plain_indented hl _) fun i l hl => ?_⟩
  have hpos : 0 < (lines before.toList).length := List.length_pos_iff.mpr (lines_ne_nil _)
  have hne : (i + (lines before.toList).length == 0) = false := beq_false_of_ne (by omega)
  rw [(hs l hl).allBlank_eq, hne, String.toList_append, blanks, String.toList_ofList]
  simp

/-! ### Texts with an empty line between each two -/

theorem sublist_intersperse (sep : String) (texts : List String) :
    texts.Sublist (texts.intersperse sep) := by
  fun_induction List.intersperse sep texts with
  | case1 => exact .slnil
  | case2 => exact .refl _
  | case3 text next rest ih => exact .cons_cons text (ih.cons sep)

/-- Indented texts stand among the lines of the body that they make up. -/
theorem sublist_spaced (n : Nat) (texts : List String) :
    (texts.flatMap fun text => textLines (indent n text)).Sublist
      (((texts.map (indent n)).intersperse "").flatMap textLines) := by
  rw [← List.flatMap_map]
  exact (sublist_intersperse "" _).flatMap textLines

theorem indent_mem_spaced {texts : List String} {text : String} (h : text ∈ texts) :
    indent n text ∈ (texts.map (indent n)).intersperse "" :=
  (sublist_intersperse "" _).subset (List.mem_map_of_mem h)

/-! ### Tidying -/

theorem squeeze_subset : ∀ (kept : Nat) (xs : List (List Char)), squeeze kept xs ⊆ xs
  | _, [] => List.Subset.refl _
  | kept, line :: rest => by
    rw [squeeze]
    split
    · split
      · exact List.cons_subset_cons _ (squeeze_subset (kept + 1) rest)
      · exact List.Subset.trans (squeeze_subset kept rest) (List.subset_cons_self _ _)
    · exact List.cons_subset_cons _ (squeeze_subset 0 rest)

theorem squeeze_ne_nil : ∀ {xs : List (List Char)}, xs ≠ [] → squeeze 0 xs ≠ []
  | line :: rest, _ => by
    rw [squeeze]
    split <;> simp

/-- Only empty lines are squeezed out. -/
theorem sublist_squeeze {xs ys : List (List Char)} (h : xs.Sublist ys) :
    ∀ kept : Nat, (∀ x ∈ xs, x ≠ []) → xs.Sublist (squeeze kept ys) := by
  induction h with
  | slnil => exact fun _ _ => List.Sublist.refl _
  | cons y _ ih =>
    intro kept hxs
    rw [squeeze]
    split
    · split
      · exact (ih (kept + 1) hxs).cons _
      · exact ih kept hxs
    · exact (ih 0 hxs).cons _
  | cons_cons x _ ih =>
    intro kept hxs
    have hx : x.isEmpty = false := by simpa using hxs x List.mem_cons_self
    rw [squeeze, hx]
    exact (ih 0 fun y hy => hxs y (List.mem_cons_of_mem x hy)).cons_cons _

/-- All lines are of a kind when those that are left are, if empty lines are of that kind. -/
theorem forall_mem_squeeze_iff {Q : List Char → Prop} (hnil : Q []) (kept : Nat)
    (xs : List (List Char)) : (∀ x ∈ squeeze kept xs, Q x) ↔ ∀ x ∈ xs, Q x := by
  constructor
  · intro h x hx
    by_cases hempty : x = []
    · exact hempty ▸ hnil
    · have hone : [x].Sublist (squeeze kept xs) :=
        sublist_squeeze (List.singleton_sublist.mpr hx) kept (by simpa using hempty)
      exact h x (List.singleton_sublist.mp hone)
  · exact fun h x hx => h x (squeeze_subset kept xs hx)

/-- A line that is not empty parts the lines before it from those after it. -/
theorem squeeze_append_cons {line : List Char} (h : line ≠ []) (ys : List (List Char)) :
    ∀ (kept : Nat) (xs : List (List Char)),
      squeeze kept (xs ++ line :: ys) = squeeze kept xs ++ line :: squeeze 0 ys
  | kept, [] => by
    have hline : line.isEmpty = false := by simpa using h
    simp only [List.nil_append, squeeze, hline, Bool.false_eq_true, if_false]
  | kept, x :: xs => by
    rw [List.cons_append, squeeze, squeeze]
    by_cases hx : x.isEmpty
    · rw [if_pos hx, if_pos hx]
      by_cases hkept : kept < 2
      · rw [if_pos hkept, if_pos hkept, squeeze_append_cons h ys (kept + 1) xs, List.cons_append]
      · rw [if_neg hkept, if_neg hkept, squeeze_append_cons h ys kept xs]
    · rw [if_neg hx, if_neg hx, squeeze_append_cons h ys 0 xs, List.cons_append]

theorem lines_tidyText (s : List Char) :
    lines (tidyText s) = squeeze 0 ((lines s).map (trimEnd isBlank)) := by
  refine lines_unlines_of_plain (squeeze_ne_nil (by simpa using lines_ne_nil s)) fun l hl => ?_
  obtain ⟨line, hline, rfl⟩ := List.mem_map.mp (squeeze_subset 0 _ hl)
  exact fun hmem => plain_of_mem_lines hline ((trimEnd_sublist isBlank line).subset hmem)

/-- **Tidying leaves settled lines as they are.** -/
theorem sublist_tidy (h : ls.Sublist (textLines s)) (hs : ∀ l ∈ ls, Settled l) :
    ls.Sublist (textLines (tidy s)) := by
  rw [sublist_textLines] at h ⊢
  rw [tidy, onText, String.toList_ofList, lines_tidyText]
  have htrim := h.map (trimEnd isBlank)
  have hkept : (ls.map String.toList).map (trimEnd isBlank) = ls.map String.toList := by
    rw [List.map_map]
    exact List.map_congr_left fun l hl => (hs l hl).trimEnd_eq
  rw [hkept] at htrim
  refine sublist_squeeze htrim 0 fun x hx => ?_
  obtain ⟨l, hl, rfl⟩ := List.mem_map.mp hx
  exact (hs l hl).ne_nil

end Layout
end TrackingPlan
