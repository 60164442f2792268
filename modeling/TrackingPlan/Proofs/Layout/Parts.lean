import TrackingPlan.Proofs.Layout

/-!
# Parts of a text

A part that stands on lines of its own is indented and tidied with the whole, and it is found there
as it is when it is indented and tidied alone. For tidying its first and its last line have to hold
more than white space: blank lines are counted across the edge of a part.

Key definitions: `Stands`, `Opens`, `Closes`.
Key theorems: `indent_indent`, `Stands.indent`, `Stands.tidy`, `stands_of_mem`.
-/

namespace TrackingPlan
namespace Layout

open Text

/-- The part stands in the whole on lines of its own, with a line before and a line after it. -/
def Stands (part whole : String) : Prop :=
  ∃ before after, whole = before ++ "\n" ++ part ++ "\n" ++ after

/-- The first line of the text is not blank. -/
def Opens (s : String) : Prop := ∃ l ls, lines s.toList = l :: ls ∧ allBlank l = false

/-- The last line of the text is not blank. -/
def Closes (s : String) : Prop := ∃ ls l, lines s.toList = ls ++ [l] ∧ allBlank l = false

variable {a b p part whole s t : String} {n : Nat} {ls : List String}

theorem eq_of_lines_eq (h : lines s.toList = lines t.toList) : s = t := by
  have hjoin := congrArg unlines h
  rw [unlines_lines, unlines_lines] at hjoin
  exact String.toList_injective hjoin

theorem lines_append_newline_toList (a b : String) :
    lines (a ++ "\n" ++ b).toList = lines a.toList ++ lines b.toList := by
  rw [toList_append_newline, lines_append_newline]

theorem block_singleton (s : String) : block [s] = s := rfl

theorem block_cons (s : String) (h : ls ≠ []) : block (s :: ls) = s ++ "\n" ++ block ls :=
  block_append (List.cons_ne_nil s []) h

theorem block_append_cons (p s : String) (ls : List String) :
    block ((p ++ s) :: ls) = p ++ block (s :: ls) := by
  apply String.toList_injective
  rw [toList_block, List.map_cons, String.toList_append, unlines_append_cons, String.toList_append,
    toList_block, List.map_cons]

/-- Lines before a line that has the part `s` in it. -/
theorem block_append_part (xs : List String) (p s t : String) (ls : List String) :
    block (xs ++ (p ++ s ++ t) :: ls) = block (xs ++ [p]) ++ s ++ block (t :: ls) := by
  by_cases hxs : xs = []
  · rw [hxs, List.nil_append, List.nil_append, block_append_cons, block_singleton]
  · rw [block_append hxs (List.cons_ne_nil _ _), block_append hxs (List.cons_ne_nil _ _),
      block_append_cons, block_singleton]
    simp only [String.append_assoc]

/-- A text starts with what its first line starts with. -/
theorem exists_append_of_lines {l : List Char} {ls : List (List Char)}
    (h : lines s.toList = (p.toList ++ l) :: ls) : ∃ t, s = p ++ t := by
  refine ⟨String.ofList (unlines (l :: ls)), String.toList_injective ?_⟩
  rw [String.toList_append, String.toList_ofList, ← unlines_append_cons, ← h, unlines_lines]

/-! ### The first and the last line -/

theorem allBlank_append_left {l : List Char} (h : allBlank l = false) (p : List Char) :
    allBlank (p ++ l) = false := by
  rw [allBlank, List.all_append, Bool.and_eq_false_iff]
  exact .inr h

theorem opens_append (hp : Settled p) (s : String) : Opens (p ++ s) := by
  obtain ⟨l, ls, -, hlines⟩ := lines_append_left hp.plain s.toList
  refine ⟨_, ls, (String.toList_append ▸ hlines), ?_⟩
  rw [allBlank, List.all_append, Bool.and_eq_false_iff]
  exact .inl hp.allBlank_eq

theorem closes_append (s : String) (hp : Settled p) : Closes (s ++ p) := by
  obtain ⟨ls, l, -, hlines⟩ := lines_append_right hp.plain s.toList
  exact ⟨ls, _, (String.toList_append ▸ hlines), allBlank_append_left hp.allBlank_eq l⟩

theorem Settled.closes (h : Settled p) : Closes p := by
  have happend := closes_append "" h
  rwa [String.empty_append] at happend

/-! ### Indentation -/

/-- A line with blanks in front, unless it is blank. -/
def indentLine (n : Nat) (l : List Char) : List Char :=
  if allBlank l then l else List.replicate n ' ' ++ l

theorem indentLine_eq {l : List Char} (h : allBlank l = false) (n : Nat) :
    indentLine n l = List.replicate n ' ' ++ l := by
  rw [indentLine, h, if_neg Bool.false_ne_true]

theorem plain_indentLine {l : List Char} (h : '\n' ∉ l) (n : Nat) : '\n' ∉ indentLine n l := by
  unfold indentLine
  split
  · exact h
  · simp [h]

theorem allBlank_indentLine (n : Nat) (l : List Char) : allBlank (indentLine n l) = allBlank l := by
  unfold indentLine
  split
  · rfl
  · rename_i h
    rw [Bool.eq_false_iff.mpr h]
    exact allBlank_append_left (Bool.eq_false_iff.mpr h) _

theorem lines_indent (n : Nat) (s : String) :
    lines (indent n s).toList = (lines s.toList).map (indentLine n) := by
  have hline (i : Nat) (l : List Char) :
      (if allBlank l || (i == 0 && !true) then l else List.replicate n ' ' ++ l) =
        indentLine n l := by
    rw [Bool.not_true, Bool.and_false, Bool.or_false, indentLine]
  rw [indent, onText, String.toList_ofList, indentLines,
    lines_mapLines fun i l hl => plain_indented hl _]
  simp only [hline]
  exact List.ext_getElem (by simp) fun i _ _ => by simp

/-- Indentation in two steps is one by the sum. -/
theorem indent_indent (m n : Nat) (s : String) : indent m (indent n s) = indent (m + n) s := by
  refine eq_of_lines_eq ?_
  rw [lines_indent, lines_indent, lines_indent, List.map_map]
  refine List.map_congr_left fun l _ => ?_
  rw [Function.comp_apply, indentLine, allBlank_indentLine]
  unfold indentLine
  split
  · rfl
  · rw [← List.append_assoc, List.replicate_append_replicate]

theorem indent_append_newline (n : Nat) (a b : String) :
    indent n (a ++ "\n" ++ b) = indent n a ++ "\n" ++ indent n b := by
  refine eq_of_lines_eq ?_
  rw [lines_indent, lines_append_newline_toList, lines_append_newline_toList, List.map_append,
    lines_indent, lines_indent]

theorem indent_block (n : Nat) : ∀ {ls : List String}, ls ≠ [] →
    indent n (block ls) = block (ls.map (indent n))
  | [s], _ => rfl
  | s :: t :: ls, _ => by
    rw [block_cons s (List.cons_ne_nil t ls), indent_append_newline,
      indent_block n (List.cons_ne_nil t ls)]
    exact (block_cons _ (List.cons_ne_nil _ _)).symm

theorem Settled.indent_eq (h : Settled p) (n : Nat) : indent n p = blanks n ++ p := by
  refine eq_of_lines_eq ?_
  have hplain := (h.blanks_append n).plain
  rw [lines_indent, lines_of_plain h.plain, List.map_singleton, lines_of_plain hplain,
    indentLine_eq h.allBlank_eq, String.toList_append, blanks, String.toList_ofList]

theorem Opens.indent (h : Opens s) (n : Nat) : Opens (indent n s) := by
  obtain ⟨l, ls, hlines, hl⟩ := h
  refine ⟨indentLine n l, ls.map (indentLine n), ?_, by rw [allBlank_indentLine, hl]⟩
  rw [lines_indent, hlines, List.map_cons]

theorem Closes.indent (h : Closes s) (n : Nat) : Closes (indent n s) := by
  obtain ⟨ls, l, hlines, hl⟩ := h
  refine ⟨ls.map (indentLine n), indentLine n l, ?_, by rw [allBlank_indentLine, hl]⟩
  rw [lines_indent, hlines, List.map_append, List.map_singleton]

/-- A text that starts with a settled one is indented in front of it. -/
theorem exists_indent_append (hp : Settled p) (n : Nat) (s : String) :
    ∃ t, indent n (p ++ s) = blanks n ++ p ++ t := by
  obtain ⟨l, ls, -, hlines⟩ := lines_append_left hp.plain s.toList
  have hblank : allBlank (p.toList ++ l) = false := by
    rw [allBlank, List.all_append, ← allBlank, hp.allBlank_eq, Bool.false_and]
  have hindented : lines (indent n (p ++ s)).toList =
      ((blanks n ++ p).toList ++ l) :: ls.map (indentLine n) := by
    rw [lines_indent, String.toList_append, hlines, List.map_cons, indentLine_eq hblank,
      String.toList_append, blanks, String.toList_ofList, List.append_assoc]
  exact exists_append_of_lines hindented

/-! ### Tidying -/

theorem lines_tidy (s : String) :
    lines (tidy s).toList = squeeze 0 ((lines s.toList).map (trimEnd isBlank)) := by
  rw [tidy, onText, String.toList_ofList, lines_tidyText]

theorem trimEnd_ne_nil {l : List Char} (h : allBlank l = false) : trimEnd isBlank l ≠ [] := by
  rw [Ne, trimEnd_eq_nil_iff, ← allBlank, h]
  exact Bool.false_ne_true

/-- A line that is not empty starts the count of empty lines anew. -/
theorem squeeze_cons {line : List Char} (h : line ≠ []) (ys : List (List Char)) :
    squeeze 0 (line :: ys) = line :: squeeze 0 ys :=
  squeeze_append_cons h ys 0 []

theorem squeeze_concat {line : List Char} (h : line ≠ []) (xs : List (List Char)) :
    squeeze 0 (xs ++ [line]) = squeeze 0 xs ++ [line] :=
  squeeze_append_cons h [] 0 xs

theorem Settled.tidy_eq (h : Settled p) : tidy p = p := by
  refine eq_of_lines_eq ?_
  rw [lines_tidy, lines_of_plain h.plain, List.map_singleton, h.trimEnd_eq, squeeze_cons h.ne_nil]
  rfl

/-- A text whose first line is not blank is tidied by itself after another one. -/
theorem tidy_append_of_opens (a : String) (h : Opens b) :
    tidy (a ++ "\n" ++ b) = tidy a ++ "\n" ++ tidy b := by
  obtain ⟨l, ls, hlines, hl⟩ := h
  refine eq_of_lines_eq ?_
  rw [lines_append_newline_toList, lines_tidy, lines_tidy, lines_tidy,
    lines_append_newline_toList, List.map_append, hlines, List.map_cons,
    squeeze_append_cons (trimEnd_ne_nil hl), squeeze_cons (trimEnd_ne_nil hl)]

/-- A text whose last line is not blank is tidied by itself before another one. -/
theorem tidy_append_of_closes (h : Closes a) (b : String) :
    tidy (a ++ "\n" ++ b) = tidy a ++ "\n" ++ tidy b := by
  obtain ⟨ls, l, hlines, hl⟩ := h
  refine eq_of_lines_eq ?_
  rw [lines_append_newline_toList, lines_tidy, lines_tidy, lines_tidy,
    lines_append_newline_toList, List.map_append, hlines, List.map_append, List.map_singleton,
    List.append_assoc, List.singleton_append, squeeze_append_cons (trimEnd_ne_nil hl),
    squeeze_concat (trimEnd_ne_nil hl), List.append_assoc, List.singleton_append]

/-- A text that starts with a settled one is tidied after it. -/
theorem exists_tidy_append (hp : Settled p) (s : String) : ∃ t, tidy (p ++ s) = p ++ t := by
  obtain ⟨l, ls, -, hlines⟩ := lines_append_left hp.plain s.toList
  obtain ⟨init, last, hinit, hlast⟩ := hp.ending
  have htrim : trimEnd isBlank (p.toList ++ l) = p.toList ++ trimEnd isBlank l := by
    rw [hinit, trimEnd_append hlast]
  have hne : p.toList ++ trimEnd isBlank l ≠ [] := by simp [hp.ne_nil]
  have htidied : lines (tidy (p ++ s)).toList =
      (p.toList ++ trimEnd isBlank l) :: squeeze 0 (ls.map (trimEnd isBlank)) := by
    rw [lines_tidy, String.toList_append, hlines, List.map_cons, htrim, squeeze_cons hne]
  exact exists_append_of_lines htidied

/-! ### Parts -/

namespace Stands

theorem trans (h : Stands part s) (h' : Stands s whole) : Stands part whole := by
  obtain ⟨before, after, rfl⟩ := h
  obtain ⟨before', after', rfl⟩ := h'
  exact ⟨before' ++ "\n" ++ before, after ++ "\n" ++ after', by simp only [String.append_assoc]⟩

theorem indent (h : Stands part whole) (n : Nat) : Stands (indent n part) (indent n whole) := by
  obtain ⟨before, after, rfl⟩ := h
  refine ⟨Layout.indent n before, Layout.indent n after, ?_⟩
  rw [indent_append_newline, indent_append_newline]

theorem tidy (h : Stands part whole) (ho : Opens part) (hc : Closes part) :
    Stands (tidy part) (tidy whole) := by
  obtain ⟨before, after, rfl⟩ := h
  refine ⟨Layout.tidy before, Layout.tidy after, ?_⟩
  have hclosed : Closes (before ++ "\n" ++ part) := by
    obtain ⟨ls, l, hlines, hl⟩ := hc
    refine ⟨lines before.toList ++ ls, l, ?_, hl⟩
    rw [lines_append_newline_toList, hlines, List.append_assoc]
  rw [tidy_append_of_closes hclosed, tidy_append_of_opens before ho]

end Stands

theorem stands_of_mem {xs ys zs : List String} (hx : xs ≠ []) (hz : zs ≠ []) (h : part ∈ ys) :
    Stands part (block (xs ++ ys ++ zs)) := by
  obtain ⟨ys₁, ys₂, rfl⟩ := List.append_of_mem h
  refine ⟨block (xs ++ ys₁), block (ys₂ ++ zs), ?_⟩
  have hsplit : xs ++ (ys₁ ++ part :: ys₂) ++ zs = (xs ++ ys₁) ++ [part] ++ (ys₂ ++ zs) := by simp
  rw [hsplit, block_append (by simp) (by simp [hz]),
    block_append (by simp [hx]) (List.cons_ne_nil _ _)]
  rfl

end Layout
end TrackingPlan
