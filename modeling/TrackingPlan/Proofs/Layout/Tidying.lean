import Mathlib.Data.List.SplitBy
import TrackingPlan.Proofs.Layout

/-!
# What tidying leaves of a text

The lines of a text fall into maximal runs, of blank lines and of other lines in turn. Tidying goes
through the runs one by one: the number of empty lines that it has kept starts anew at each line
that is not empty, so what it leaves of a run depends on that run only. Tidied lines are trimmed
and have no long runs, so there is nothing left to take away.

Key definitions: `runs`, `tidiedRun`.
Key theorems: `squeeze_runs`, `lines_tidyText_eq`, `tidyText_tidyText`, `tidy_keepsRuns`.
-/

namespace TrackingPlan
namespace Layout

open Text

/-- Two lines of which both are blank or neither is. -/
def alike (a b : List Char) : Bool := allBlank a == allBlank b

/-- The maximal runs of lines alike. -/
def runs (ls : List (List Char)) : List (List (List Char)) := ls.splitBy alike

/-- What tidying leaves of a run: at most two empty lines of a blank one, and every line of
another one without the white space at its end. -/
def tidiedRun (run : List (List Char)) : List (List Char) :=
  if run.all allBlank then List.replicate (min run.length 2) []
  else run.map (trimEnd isBlank)

variable {xs ys : List (List Char)} {kept n : Nat}

/-! ### Blank lines -/

/-- It does not matter how many empty lines stand before a line that is not empty. -/
theorem squeeze_of_head? (h : ys.head? ≠ some []) (kept : Nat) :
    squeeze kept ys = squeeze 0 ys := by
  cases ys with
  | nil => rfl
  | cons line rest =>
    have hline : line.isEmpty = false := by simpa using h
    simp only [squeeze, hline, Bool.false_eq_true, if_false]

theorem squeeze_replicate_append (h : ys.head? ≠ some []) (n : Nat) : ∀ kept : Nat,
    squeeze kept (List.replicate n [] ++ ys) =
      List.replicate (min n (2 - kept)) [] ++ squeeze 0 ys := by
  induction n with
  | zero => exact fun kept => by simpa using squeeze_of_head? h kept
  | succ n ih =>
    intro kept
    rw [List.replicate_succ, List.cons_append, squeeze, if_pos List.isEmpty_nil]
    split
    · have hmin : min (n + 1) (2 - kept) = min n (2 - (kept + 1)) + 1 := by omega
      rw [ih (kept + 1), hmin, List.replicate_succ, List.cons_append]
    · have hmin : min (n + 1) (2 - kept) = min n (2 - kept) := by omega
      rw [ih kept, hmin]

theorem squeeze_filled_append : ∀ {xs : List (List Char)}, (∀ l ∈ xs, l ≠ []) →
    squeeze 0 (xs ++ ys) = xs ++ squeeze 0 ys
  | [], _ => rfl
  | line :: rest, h => by
    have hline : line.isEmpty = false := by simpa using h line List.mem_cons_self
    rw [List.cons_append, squeeze, hline, List.cons_append,
      ← squeeze_filled_append fun l hl => h l (List.mem_cons_of_mem line hl)]
    rfl

/-! ### Runs -/

/-- All lines of a run are blank, or none is. -/
theorem allBlank_eq_head {line : List Char} {run : List (List Char)}
    (h : (line :: run).IsChain (alike · ·)) : ∀ l ∈ line :: run, allBlank l = allBlank line := by
  induction run generalizing line with
  | nil => simp
  | cons next rest ih =>
    rw [List.isChain_cons_cons] at h
    have hnext : allBlank line = allBlank next := beq_iff_eq.mp h.1
    intro l hl
    rcases List.mem_cons.mp hl with rfl | hl
    · rfl
    · rw [ih h.2 l hl, hnext]

theorem squeeze_runs : ∀ {rs : List (List (List Char))}, [] ∉ rs →
    (∀ run ∈ rs, run.IsChain (alike · ·)) →
    rs.IsChain (fun a b => ∃ ha hb, alike (a.getLast ha) (b.head hb) = false) →
      squeeze 0 (rs.flatten.map (trimEnd isBlank)) = rs.flatMap tidiedRun
  | [], _, _, _ => rfl
  | [] :: _, hne, _, _ => absurd List.mem_cons_self hne
  | (line :: run) :: rest, hne, hruns, hparted => by
    have ih := squeeze_runs (fun hmem => hne (List.mem_cons_of_mem _ hmem))
      (fun r hr => hruns r (List.mem_cons_of_mem _ hr)) hparted.tail
    have halike := allBlank_eq_head (hruns _ List.mem_cons_self)
    rw [List.flatten_cons, List.map_append, List.flatMap_cons, ← ih]
    cases hblank : allBlank line with
    | true =>
      have hall : (line :: run).all allBlank := List.all_eq_true.mpr fun l hl => by
        rw [halike l hl, hblank]
      have hempty : (line :: run).map (trimEnd isBlank) =
          List.replicate (line :: run).length [] := by
        rw [← List.map_const', List.map_inj_left]
        exact fun l hl => trimEnd_eq_nil_iff.mpr (List.all_eq_true.mp hall l hl)
      have hnext : (rest.flatten.map (trimEnd isBlank)).head? ≠ some [] := by
        rcases rest with _ | ⟨_ | ⟨next, run'⟩, rest⟩
        · exact nofun
        · exact absurd (List.mem_cons_of_mem _ List.mem_cons_self) hne
        · obtain ⟨hlast, hfirst, hends⟩ := (List.isChain_cons_cons.mp hparted).1
          have hdiffer : (allBlank ((line :: run).getLast hlast) == allBlank next) = false := hends
          rw [halike _ (List.getLast_mem hlast), hblank] at hdiffer
          simpa [trimEnd_eq_nil_iff, ← allBlank.eq_def] using hdiffer
      rw [tidiedRun, if_pos hall, hempty, squeeze_replicate_append hnext]
    | false =>
      have hfilled : ∀ l ∈ line :: run, allBlank l = false := fun l hl => by
        rw [halike l hl, hblank]
      have hsome : ¬ (line :: run).all allBlank := by simp [hblank]
      rw [tidiedRun, if_neg hsome]
      refine squeeze_filled_append fun l hl => ?_
      obtain ⟨l', hl', rfl⟩ := List.mem_map.mp hl
      rw [Ne, trimEnd_eq_nil_iff, ← allBlank, hfilled l' hl']
      exact Bool.false_ne_true

/-- The lines that are left are those of one run after another. -/
theorem lines_tidyText_eq (s : List Char) :
    lines (tidyText s) = (runs (lines s)).flatMap tidiedRun := by
  have hjoined := squeeze_runs (List.nil_notMem_splitBy alike (lines s))
    (fun _ => List.isChain_of_mem_splitBy) (List.isChain_getLast_head_splitBy alike (lines s))
  rwa [List.flatten_splitBy, ← lines_tidyText] at hjoined

/-! ### Tidied text -/

theorem squeeze_squeeze : ∀ (kept : Nat) (xs : List (List Char)),
    squeeze kept (squeeze kept xs) = squeeze kept xs
  | _, [] => rfl
  | kept, line :: rest => by
    by_cases hline : line.isEmpty
    · by_cases hkept : kept < 2
      · simp only [squeeze, hline, if_true, if_pos hkept, squeeze_squeeze (kept + 1) rest]
      · simp only [squeeze, hline, if_true, if_neg hkept, squeeze_squeeze kept rest]
    · have hfilled : line.isEmpty = false := Bool.eq_false_iff.mpr hline
      simp only [squeeze, hfilled, Bool.false_eq_true, if_false, squeeze_squeeze 0 rest]

/-- The lines that are left are trimmed. -/
theorem trimEnd_of_mem_tidyText {s l : List Char} (h : l ∈ lines (tidyText s)) :
    trimEnd isBlank l = l := by
  rw [lines_tidyText] at h
  obtain ⟨line, -, rfl⟩ := List.mem_map.mp (squeeze_subset 0 _ h)
  exact trimEnd_trimEnd isBlank line

theorem tidyText_tidyText (s : List Char) : tidyText (tidyText s) = tidyText s := by
  have htrim : (lines (tidyText s)).map (trimEnd isBlank) = lines (tidyText s) :=
    (List.map_congr_left fun l hl => trimEnd_of_mem_tidyText hl).trans (List.map_id' _)
  rw [tidyText, htrim, lines_tidyText, squeeze_squeeze]
  rfl

/-- Empty lines at the start of what is left join those that are kept already. -/
theorem length_le_of_prefix_squeeze : ∀ {xs : List (List Char)} {kept n : Nat},
    List.replicate n [] <+: squeeze kept xs → n ≤ 2 - kept
  | _, _, 0, _ => Nat.zero_le _
  | [], _, n + 1, h => by simp [squeeze] at h
  | line :: rest, kept, n + 1, h => by
    rw [squeeze] at h
    split at h
    · split at h
      · rename_i hkept
        rw [List.replicate_succ, List.cons_prefix_cons] at h
        have hrest := length_le_of_prefix_squeeze h.2
        omega
      · exact length_le_of_prefix_squeeze h
    · rename_i hline
      rw [List.replicate_succ, List.cons_prefix_cons] at h
      exact absurd (List.isEmpty_iff.mpr h.1.symm) hline

theorem length_le_of_infix_squeeze : ∀ {xs : List (List Char)} {kept n : Nat},
    List.replicate n [] <:+: squeeze kept xs → n ≤ 2
  | [], _, n, h => by
    have hlength := h.length_le
    simp [squeeze] at hlength
    omega
  | line :: rest, kept, n, h => by
    have hprefix : List.replicate n [] <+: squeeze kept (line :: rest) → n ≤ 2 := fun hpre =>
      (length_le_of_prefix_squeeze hpre).trans (Nat.sub_le 2 kept)
    rw [squeeze] at h hprefix
    split at h
    · rename_i hline
      rw [if_pos hline] at hprefix
      split at h
      · rename_i hkept
        rw [if_pos hkept] at hprefix
        exact (List.infix_cons_iff.mp h).elim hprefix length_le_of_infix_squeeze
      · exact length_le_of_infix_squeeze h
    · rename_i hline
      rw [if_neg hline] at hprefix
      exact (List.infix_cons_iff.mp h).elim hprefix length_le_of_infix_squeeze

/-- Three blank lines in a row are not left. -/
theorem not_blank_of_infix_tidyText {s a b c : List Char} (h : [a, b, c] <:+: lines (tidyText s)) :
    ¬ (allBlank a ∧ allBlank b ∧ allBlank c) := by
  rintro ⟨ha, hb, hc⟩
  have hempty : ∀ l ∈ [a, b, c], allBlank l → l = [] := fun l hl hblank => by
    rw [← trimEnd_of_mem_tidyText (h.subset hl), trimEnd_eq_nil_iff.mpr hblank]
  obtain rfl := hempty a (by simp) ha
  obtain rfl := hempty b (by simp) hb
  obtain rfl := hempty c (by simp) hc
  rw [lines_tidyText] at h
  have hthree : 3 ≤ 2 := length_le_of_infix_squeeze h
  omega

/-- **What tidying leaves of a text**: of every run of blank lines two empty ones at most, and
every other line without the white space at its end. So no line ends in white space, no three
lines in a row are blank, and a tidied text stays as it is. -/
theorem tidy_keepsRuns (s : String) :
    lines (tidy s).toList = (runs (lines s.toList)).flatMap tidiedRun ∧
      (∀ l ∈ lines (tidy s).toList, ∀ c, l.getLast? = some c → isBlank c = false) ∧
      (∀ a b c, [a, b, c] <:+: lines (tidy s).toList →
        ¬ (allBlank a ∧ allBlank b ∧ allBlank c)) ∧
      tidy (tidy s) = tidy s := by
  have htidy : (tidy s).toList = tidyText s.toList := String.toList_ofList
  rw [htidy]
  refine ⟨lines_tidyText_eq _, fun l hl c hc => ?_, fun _ _ _ => not_blank_of_infix_tidyText, ?_⟩
  · rw [← trimEnd_of_mem_tidyText hl] at hc
    exact getLast?_trimEnd hc
  · rw [tidy, onText, htidy, tidyText_tidyText]
    rfl

example : tidy "\n \n\t\na \n\n  b\u00a0\n \n" = "\n\na\n\n  b\n\n" := by decide

end Layout
end TrackingPlan
