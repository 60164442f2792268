import TrackingPlan.Proofs.Text.Lines
import TrackingPlan.Proofs.Text.Newlines

/-!
# Physical lines

A physical line ends in a line feed, in a carriage return, or in both. Joining texts by line feeds
puts their physical lines in order, as long as none of them ends in a carriage return, which would
take the line feed with it. Whether all physical lines of a text are of some kind can be told from
the places where they start: the start of the text, and what follows each line end.

Key definitions: `physicalLines`, `firstLine`.
Key theorems: `physicalLines_unlines`, `forall_physicalLines_iff`.
-/

namespace TrackingPlan
namespace Text

/-- The lines of a text that may end in a line feed, a carriage return, or both. -/
def physicalLines (s : List Char) : List (List Char) := lines (normalizeNewlines s)

/-- Does the character end a physical line? -/
def isLineEnd (c : Char) : Bool := c = '\n' || c = '\r'

/-- A text up to the first end of a line. -/
def firstLine (s : List Char) : List Char := s.takeWhile (!isLineEnd ·)

/-! ### Joined texts -/

/-- A line feed after a text is turned into itself, when the text does not end in a carriage
return. -/
theorem normalizeNewlines_append_newline {a : List Char} (h : a.getLast? ≠ some '\r')
    (b : List Char) :
    normalizeNewlines (a ++ '\n' :: b) = normalizeNewlines a ++ '\n' :: normalizeNewlines b := by
  induction a using normalizeNewlines.induct with
  | case1 rest ih =>
    have hrest : rest.getLast? ≠ some '\r' := by
      cases rest with
      | nil => simp
      | cons c rest => simpa [List.getLast?_cons_cons] using h
    rw [List.cons_append, List.cons_append, normalizeNewlines, ih hrest, normalizeNewlines,
      List.cons_append]
  | case2 rest hnext ih =>
    cases rest with
    | nil => exact absurd rfl h
    | cons c rest =>
      have hc : c ≠ '\n' := fun hc => hnext rest (hc ▸ rfl)
      have hrest : (c :: rest).getLast? ≠ some '\r' := by rwa [List.getLast?_cons_cons] at h
      rw [List.cons_append, normalizeNewlines_return (by simpa using hc), ih hrest,
        normalizeNewlines_return (by simpa using hc), List.cons_append]
  | case3 c rest hboth hone ih =>
    have hc : c ≠ '\r' := hone
    have hrest : rest.getLast? ≠ some '\r' := by
      cases rest with
      | nil => simp
      | cons d rest => rwa [List.getLast?_cons_cons] at h
    rw [List.cons_append, normalizeNewlines_cons hc, ih hrest, normalizeNewlines_cons hc,
      List.cons_append]
  | case4 => exact normalizeNewlines_cons (by decide) b

theorem physicalLines_append_newline {a : List Char} (h : a.getLast? ≠ some '\r') (b : List Char) :
    physicalLines (a ++ '\n' :: b) = physicalLines a ++ physicalLines b := by
  rw [physicalLines, normalizeNewlines_append_newline h, lines_append_newline]
  rfl

/-- The physical lines of joined texts are those of each of them. -/
theorem physicalLines_unlines : ∀ {ls : List (List Char)}, ls ≠ [] →
    (∀ l ∈ ls, l.getLast? ≠ some '\r') → physicalLines (unlines ls) = ls.flatMap physicalLines
  | [l], _, _ => by
    rw [unlines_singleton, List.flatMap_cons, List.flatMap_nil, List.append_nil]
  | l :: l' :: ls, _, h => by
    have ih := physicalLines_unlines (List.cons_ne_nil l' ls) fun x hx =>
      h x (List.mem_cons_of_mem l hx)
    rw [unlines_cons l (List.cons_ne_nil l' ls),
      physicalLines_append_newline (h l List.mem_cons_self), ih]
    rfl

/-- A text without line ends is one physical line. -/
theorem physicalLines_of_plain {l : List Char} (hlf : '\n' ∉ l) (hcr : '\r' ∉ l) :
    physicalLines l = [l] := by
  have hkept : normalizeNewlines l = l := by
    simpa using normalizeNewlines_append hcr []
  rw [physicalLines, hkept, lines_of_plain hlf]

/-! ### Where physical lines start -/

theorem physicalLines_newline (s : List Char) :
    physicalLines ('\n' :: s) = [] :: physicalLines s := by
  have h := physicalLines_append_newline (a := []) (by simp) s
  rwa [physicalLines_of_plain List.not_mem_nil List.not_mem_nil] at h

theorem physicalLines_return {s : List Char} (h : s.head? ≠ some '\n') :
    physicalLines ('\r' :: s) = [] :: physicalLines s := by
  have hboth : physicalLines ('\r' :: s) = physicalLines ('\n' :: s) := by
    rw [physicalLines, physicalLines, normalizeNewlines_return h,
      normalizeNewlines_cons (by decide)]
  rw [hboth, physicalLines_newline]

/-- A line feed after a carriage return ends no line of its own. -/
theorem physicalLines_both (s : List Char) :
    physicalLines ('\r' :: '\n' :: s) = physicalLines ('\n' :: s) := rfl

/-- A character that ends no line stands in the first one. -/
theorem physicalLines_cons {c : Char} (h : isLineEnd c = false) (s : List Char) :
    physicalLines (c :: s) = (physicalLines s).modifyHead (c :: ·) := by
  simp only [isLineEnd, Bool.or_eq_false_iff, decide_eq_false_iff_not] at h
  rw [physicalLines, normalizeNewlines_cons h.2, lines, List.splitOn_cons_eq_if_modifyHead,
    if_neg (by simpa using h.1)]
  rfl

theorem firstLine_cons_of_end {c : Char} (h : isLineEnd c) (s : List Char) :
    firstLine (c :: s) = [] := by
  rw [firstLine, List.takeWhile_cons_of_neg (by simp [h])]

theorem firstLine_cons {c : Char} (h : isLineEnd c = false) (s : List Char) :
    firstLine (c :: s) = c :: firstLine s := by
  rw [firstLine, List.takeWhile_cons_of_pos (by simp [h])]
  rfl

variable {Q : List Char → Prop}

theorem forall_starts_cons (c : Char) (s : List Char) :
    (∀ d t, d :: t <:+ c :: s → isLineEnd d → Q (firstLine t)) ↔
      (isLineEnd c → Q (firstLine s)) ∧ ∀ d t, d :: t <:+ s → isLineEnd d → Q (firstLine t) := by
  constructor
  · intro h
    refine ⟨h c s List.suffix_rfl, fun d t hsuffix => h d t ?_⟩
    exact hsuffix.trans (List.suffix_cons c s)
  · rintro ⟨hc, hs⟩ d t hsuffix
    rcases List.suffix_cons_iff.mp hsuffix with heq | hsuffix
    · obtain ⟨rfl, rfl⟩ := List.cons.inj heq
      exact hc
    · exact hs d t hsuffix

/-- The first physical line of a text and the others. -/
theorem exists_physicalLines (hnil : Q []) (s : List Char) :
    ∃ rest, physicalLines s = firstLine s :: rest ∧
      ((∀ l ∈ rest, Q l) ↔ ∀ c t, c :: t <:+ s → isLineEnd c → Q (firstLine t)) := by
  induction s with
  | nil => exact ⟨[], rfl, by simp⟩
  | cons c s ih =>
    obtain ⟨rest, hs, hrest⟩ := ih
    have hfirst : (∀ l ∈ physicalLines s, Q l) ↔
        Q (firstLine s) ∧ ∀ d t, d :: t <:+ s → isLineEnd d → Q (firstLine t) := by
      rw [hs, List.forall_mem_cons, hrest]
    by_cases hplain : isLineEnd c = false
    · refine ⟨rest, ?_, ?_⟩
      · rw [physicalLines_cons hplain, hs, firstLine_cons hplain, List.modifyHead_cons]
      · rw [hrest, forall_starts_cons]
        simp [hplain]
    · have hend : isLineEnd c := by simpa using hplain
      rw [firstLine_cons_of_end hend]
      by_cases hboth : c = '\r' ∧ s.head? = some '\n'
      · obtain ⟨rfl, hhead⟩ := hboth
        obtain ⟨t, rfl⟩ := List.head?_eq_some_iff.mp hhead
        refine ⟨rest, (physicalLines_both t).trans hs, ?_⟩
        have hempty : firstLine ('\n' :: t) = [] := firstLine_cons_of_end rfl t
        rw [hrest, forall_starts_cons '\r', hempty]
        simp [hnil]
      · have hlines : physicalLines (c :: s) = [] :: physicalLines s := by
          simp only [isLineEnd, Bool.or_eq_true, decide_eq_true_eq] at hend
          rcases hend with rfl | rfl
          · exact physicalLines_newline s
          · exact physicalLines_return fun hhead => hboth ⟨rfl, hhead⟩
        refine ⟨physicalLines s, hlines, ?_⟩
        rw [hfirst, forall_starts_cons]
        simp [hend]

/-- **All physical lines** are of a kind when those are that start with the text and after each
line end. -/
theorem forall_physicalLines_iff (hnil : Q []) (s : List Char) :
    (∀ l ∈ physicalLines s, Q l) ↔
      Q (firstLine s) ∧ ∀ c t, c :: t <:+ s → isLineEnd c → Q (firstLine t) := by
  obtain ⟨rest, hs, hrest⟩ := exists_physicalLines hnil s
  rw [hs, List.forall_mem_cons, hrest]

theorem firstLine_append_newline (a b : List Char) : firstLine (a ++ '\n' :: b) = firstLine a := by
  induction a with
  | nil => rfl
  | cons c a ih =>
    rw [List.cons_append]
    by_cases hc : isLineEnd c
    · rw [firstLine_cons_of_end hc, firstLine_cons_of_end hc]
    · rw [firstLine_cons (by simpa using hc), firstLine_cons (by simpa using hc), ih]

/-- What is added to a text without line ends goes to its end or is left out. -/
theorem exists_firstLine_append (a b : List Char) :
    ∃ t, firstLine (a ++ b) = firstLine a ++ t ∧ t <+: b := by
  induction a with
  | nil => exact ⟨firstLine b, rfl, List.takeWhile_prefix _⟩
  | cons c a ih =>
    rw [List.cons_append]
    by_cases hc : isLineEnd c
    · rw [firstLine_cons_of_end hc, firstLine_cons_of_end hc]
      exact ⟨[], rfl, List.nil_prefix⟩
    · obtain ⟨t, ht, hstart⟩ := ih
      rw [firstLine_cons (by simpa using hc), firstLine_cons (by simpa using hc), ht]
      exact ⟨t, rfl, hstart⟩

end Text
end TrackingPlan
