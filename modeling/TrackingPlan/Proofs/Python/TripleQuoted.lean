import TrackingPlan.Proofs.Layout.Parts
import TrackingPlan.Python.Literal

/-!
# Literals between triple quotes

A literal between triple quotes ends at the first three quotes in a row; a backslash takes the
character that follows with it. Whether the end is reached too early is seen by a scan of the
content that only looks at the quotes before it and at a backslash before it. A line end and white
space start the scan anew, so the lines of a content can be scanned one by one, and no indentation
and no tidying makes the literal end elsewhere.

Key definitions: `readTriple`, `scan`, `Enclosed`, `tripleQuoted`, `IsContent`.
Key theorems: `Enclosed.isContent`, `enclosed_unlines`, `Enclosed.exists_indent`,
`Enclosed.exists_tidy`.
-/

namespace TrackingPlan
namespace Python

open Layout Text

/-! ### Reading a literal -/

/-- The text before the first three quotes in a row and the text after them. A backslash takes the
character that follows with it. -/
def untilTriple : List Char → Option (List Char × List Char)
  | '\\' :: c :: rest => (untilTriple rest).map fun (content, rest) => ('\\' :: c :: content, rest)
  | '"' :: '"' :: '"' :: rest => some ([], rest)
  | c :: rest => (untilTriple rest).map fun (content, rest) => (c :: content, rest)
  | [] => none

/-- The content of the literal between triple quotes that the text starts with, and the text after
the literal. -/
def readTriple : List Char → Option (List Char × List Char)
  | '"' :: '"' :: '"' :: rest => untilTriple rest
  | _ => none

/-- The literal with a content between triple quotes, after some blanks. -/
def tripleQuoted (n : Nat) (content : List Char) : String :=
  String.ofList (List.replicate n ' ' ++ (tripleQuote ++ content ++ tripleQuote))

/-- The literal with the content ends at its last three characters, whatever follows it. -/
def IsContent (content : List Char) : Prop :=
  ∀ rest, readTriple (tripleQuote ++ content ++ tripleQuote ++ rest) = some (content, rest)

variable {c : Char} {s t w rest : List Char} {n q : Nat}

theorem untilTriple_escape (c : Char) (h : untilTriple t = some (w, rest)) :
    untilTriple ('\\' :: c :: t) = some ('\\' :: c :: w, rest) := by
  rw [untilTriple, h, Option.map_some]

theorem untilTriple_plain (hc : c ∉ ['\\', '"']) (h : untilTriple t = some (w, rest)) :
    untilTriple (c :: t) = some (c :: w, rest) := by
  rw [untilTriple, h, Option.map_some]
  · rintro _ _ rfl
    exact absurd hc (by decide)
  · rintro _ rfl
    exact absurd hc (by decide)

/-- Quotes in a row, fewer than three, are content. -/
theorem untilTriple_quotes (hq : q ≤ 2) (ht : t.head? ≠ some '"')
    (h : untilTriple t = some (w, rest)) :
    untilTriple (List.replicate q '"' ++ t) = some (List.replicate q '"' ++ w, rest) := by
  have hone {t w : List Char} (ht : ∀ t', t ≠ '"' :: '"' :: t')
      (h : untilTriple t = some (w, rest)) : untilTriple ('"' :: t) = some ('"' :: w, rest) := by
    rw [untilTriple, h, Option.map_some]
    · exact fun _ _ hback => absurd hback (by decide)
    · exact fun t' _ => ht t'
  have hnext : untilTriple ('"' :: t) = some ('"' :: w, rest) :=
    hone (fun t' hquote => ht (hquote ▸ rfl)) h
  match q, hq with
  | 0, _ => exact h
  | 1, _ => exact hnext
  | 2, _ =>
    refine hone (fun t' hquote => ht ?_) hnext
    obtain ⟨-, rfl⟩ := List.cons.inj hquote
    rfl

/-! ### Scanning a content -/

/-- What was read of a content last: some quotes in a row, or a backslash. -/
inductive Reading where
  | after (quotes : Nat)
  | escape

/-- One more character. Three quotes in a row are no content, and a backslash stands before another
one or before a quote. -/
def Reading.next : Reading → Char → Option Reading
  | after quotes, c =>
    if c = '\\' then some escape
    else if c ≠ '"' then some (after 0)
    else if quotes < 2 then some (after (quotes + 1))
    else none
  | escape, c => if c = '\\' ∨ c = '"' then some (after 0) else none

/-- What was read last, after all characters of a text. -/
def scan (r : Reading) (s : List Char) : Option Reading := s.foldlM Reading.next r

/-- The text can stand between triple quotes. -/
def Enclosed (w : List Char) : Prop := scan (.after 0) w = some (.after 0)

theorem scan_cons (r : Reading) (c : Char) (s : List Char) :
    scan r (c :: s) = (r.next c).bind fun r' => scan r' s := List.foldlM_cons

theorem scan_append (r : Reading) (s t : List Char) :
    scan r (s ++ t) = (scan r s).bind fun r' => scan r' t := List.foldlM_append

theorem scan_backslash (q : Nat) (s : List Char) :
    scan (.after q) ('\\' :: s) = scan .escape s := scan_cons _ _ _

theorem scan_plain (hc : c ∉ ['\\', '"']) (q : Nat) (s : List Char) :
    scan (.after q) (c :: s) = scan (.after 0) s := by
  simp only [List.mem_cons, List.not_mem_nil, or_false, not_or] at hc
  rw [scan_cons, Reading.next, if_neg hc.1, if_pos hc.2, Option.bind_some]

theorem scan_quote (q : Nat) (s : List Char) : scan (.after q) ('"' :: s) =
    if q < 2 then scan (.after (q + 1)) s else none := by
  rw [scan_cons, Reading.next, if_neg (by decide), if_neg (by decide)]
  split <;> rfl

theorem scan_escape (c : Char) (s : List Char) : scan .escape (c :: s) =
    if c = '\\' ∨ c = '"' then scan (.after 0) s else none := by
  rw [scan_cons, Reading.next]
  split <;> rfl

theorem scan_quotes (hq : q ≤ 2) (s : List Char) :
    scan (.after 0) (List.replicate q '"' ++ s) = scan (.after q) s := by
  match q, hq with
  | 0, _ => rfl
  | 1, _ => exact scan_quote 0 s
  | 2, _ => exact (scan_quote 0 _).trans (scan_quote 1 s)

/-- A content that was scanned up to some quotes goes on until three quotes follow it. -/
theorem untilTriple_of_scan : ∀ {w : List Char} {q : Nat}, q ≤ 2 →
    scan (.after q) w = some (.after 0) → ∀ rest : List Char,
      untilTriple (List.replicate q '"' ++ (w ++ tripleQuote ++ rest)) =
        some (List.replicate q '"' ++ w, rest)
  | [], q, _, h, rest => by
    obtain rfl : q = 0 := by simpa [scan] using h
    rfl
  -- quotes are held back until another character or a third quote follows
  | c :: w, q, hq, h, rest => by
    by_cases hback : c = '\\'
    · subst hback
      rw [scan_backslash] at h
      match w, h with
      | c' :: w, h =>
        rw [scan_escape, Option.ite_none_right_eq_some] at h
        obtain ⟨-, hw⟩ := h
        have ih := untilTriple_of_scan (Nat.zero_le 2) hw rest
        exact untilTriple_quotes hq (by simp) (untilTriple_escape c' ih)
    · by_cases hquote : c = '"'
      · subst hquote
        rw [scan_quote, Option.ite_none_right_eq_some] at h
        obtain ⟨hlt, hw⟩ := h
        have ih := untilTriple_of_scan (show q + 1 ≤ 2 by omega) hw rest
        simp only [List.replicate_succ', List.append_assoc, List.singleton_append] at ih
        simpa only [List.cons_append, List.append_assoc] using ih
      · have hplain : c ∉ ['\\', '"'] := by simp [hback, hquote]
        rw [scan_plain hplain] at h
        have ih := untilTriple_of_scan (Nat.zero_le 2) h rest
        exact untilTriple_quotes hq (by simpa using hquote) (untilTriple_plain hplain ih)

/-- **A content that is scanned without fault is read to its end.** -/
theorem Enclosed.isContent (h : Enclosed w) : IsContent w := fun rest => by
  have huntil := untilTriple_of_scan (Nat.zero_le 2) h rest
  rwa [List.replicate_zero, List.nil_append] at huntil

/-! ### The lines of a content -/

/-- The text can stand in a line of a content. -/
def Tame (l : List Char) : Prop := ∃ q, scan (.after 0) l = some (.after q)

theorem enclosed_append_newline : Enclosed (s ++ '\n' :: t) ↔ Tame s ∧ Enclosed t := by
  rw [Enclosed, scan_append]
  constructor
  · intro h
    obtain ⟨r, hr, ht⟩ := Option.bind_eq_some_iff.mp h
    cases r with
    | after q =>
      rw [scan_plain (by decide)] at ht
      exact ⟨⟨q, hr⟩, ht⟩
    | escape =>
      rw [scan_escape, if_neg (by decide)] at ht
      exact nomatch ht
  · rintro ⟨⟨q, hq⟩, ht⟩
    rw [hq, Option.bind_some, scan_plain (by decide)]
    exact ht

theorem enclosed_unlines : ∀ {ls : List (List Char)} {l : List Char},
    Enclosed (unlines (ls ++ [l])) ↔ (∀ x ∈ ls, Tame x) ∧ Enclosed l
  | [], l => by simp [unlines_singleton]
  | x :: ls, l => by
    rw [List.cons_append, unlines_cons x (by simp), enclosed_append_newline, enclosed_unlines,
      List.forall_mem_cons, and_assoc]

theorem scan_blanks (n : Nat) (s : List Char) :
    scan (.after 0) (List.replicate n ' ' ++ s) = scan (.after 0) s := by
  induction n with
  | zero => rfl
  | succ n ih => rw [List.replicate_succ, List.cons_append, scan_plain (by decide), ih]

theorem Tame.indentLine (h : Tame s) (n : Nat) : Tame (indentLine n s) := by
  unfold Layout.indentLine
  split
  · exact h
  · rwa [Tame, scan_blanks]

/-- No white space is escaped. -/
theorem Tame.trimEnd (h : Tame s) : Tame (trimEnd isBlank s) := by
  obtain ⟨q, hq⟩ := h
  obtain ⟨ws, hs, hws⟩ := exists_trimEnd_append isBlank s
  rw [hs, scan_append] at hq
  obtain ⟨r, hr, hrest⟩ := Option.bind_eq_some_iff.mp hq
  cases r with
  | after q' => exact ⟨q', hr⟩
  | escape =>
    cases ws with
    | nil => exact nomatch hrest
    | cons c ws =>
      rw [scan_escape, Option.ite_none_right_eq_some] at hrest
      obtain ⟨hmark, -⟩ := hrest
      obtain ⟨hblank, -⟩ := (List.all_cons ▸ Bool.and_eq_true_iff).mp hws
      rcases hmark with rfl | rfl <;> exact absurd hblank (by decide)

theorem settled_tripleQuote : Settled (String.ofList tripleQuote) :=
  ⟨by decide, ['"', '"'], '"', by decide, by decide⟩

theorem trimEnd_append_tripleQuote (s t : List Char) :
    trimEnd isBlank (s ++ tripleQuote ++ t) = s ++ tripleQuote ++ trimEnd isBlank t := by
  have hquote := trimEnd_append (p := isBlank) (c := '"') (by decide) (s ++ ['"', '"']) t
  rwa [List.append_assoc s] at hquote

theorem indentLine_of_quote (h : '"' ∈ s) (n : Nat) :
    indentLine n s = List.replicate n ' ' ++ s :=
  indentLine_eq (List.all_eq_false.mpr ⟨'"', h, by decide⟩) n

/-- The lines of a literal whose content has more than one. -/
theorem lines_tripleQuoted (n : Nat) {first last : List Char} {mid : List (List Char)}
    (hfirst : '\n' ∉ first) (hmid : ∀ l ∈ mid, '\n' ∉ l) (hlast : '\n' ∉ last) :
    lines (tripleQuoted n (unlines (first :: mid ++ [last]))).toList =
      (List.replicate n ' ' ++ tripleQuote ++ first) :: (mid ++ [last ++ tripleQuote]) := by
  have htext : (tripleQuoted n (unlines (first :: mid ++ [last]))).toList = unlines
      ((List.replicate n ' ' ++ tripleQuote ++ first) :: (mid ++ [last ++ tripleQuote])) := by
    rw [← List.cons_append, unlines_concat_append, List.cons_append, List.cons_append,
      unlines_append_cons, tripleQuoted, String.toList_ofList, List.append_assoc, List.append_assoc,
      List.append_assoc]
  rw [htext]
  refine lines_unlines_of_plain (List.cons_ne_nil _ _) (List.forall_mem_cons.mpr ⟨?_,
    List.forall_mem_append.mpr ⟨hmid, List.forall_mem_singleton.mpr ?_⟩⟩)
  · simp [tripleQuote, hfirst]
  · simp [tripleQuote, hlast]

theorem settled_tripleQuoted (n : Nat) (h : '\n' ∉ w) : Settled (tripleQuoted n w) where
  plain := by simp [tripleQuoted, tripleQuote, h]
  ending := by
    refine ⟨List.replicate n ' ' ++ (tripleQuote ++ w ++ ['"', '"']), '"', ?_, by decide⟩
    simp [tripleQuoted, tripleQuote]

/-- The lines of a content: one, or a first one and a last one. -/
theorem lines_cases (w : List Char) : '\n' ∉ w ∨
    ∃ first mid last, w = unlines (first :: mid ++ [last]) ∧
      '\n' ∉ first ∧ (∀ l ∈ mid, '\n' ∉ l) ∧ '\n' ∉ last := by
  have hplain : ∀ l ∈ lines w, '\n' ∉ l := fun _ => plain_of_mem_lines
  match hlines : lines w with
  | [] => exact absurd hlines (lines_ne_nil w)
  | first :: rest =>
    rw [hlines, List.forall_mem_cons] at hplain
    rcases List.eq_nil_or_concat rest with rfl | ⟨mid, last, rfl⟩
    · refine .inl ?_
      rw [← unlines_lines w, hlines, unlines_singleton]
      exact hplain.1
    · rw [List.concat_eq_append] at hlines hplain
      obtain ⟨hmid, hlast⟩ := List.forall_mem_append.mp hplain.2
      refine .inr ⟨first, mid, last, ?_, hplain.1, hmid, hlast last List.mem_cons_self⟩
      rw [← unlines_lines w, hlines, List.cons_append]

/-! ### Literals in laid out code -/

theorem opens_tripleQuoted (n : Nat) (w : List Char) : Opens (tripleQuoted n w) := by
  have hopens := opens_append (settled_tripleQuote.blanks_append n)
    (String.ofList (w ++ tripleQuote))
  rwa [blanks, ← String.ofList_append, ← String.ofList_append, List.append_assoc,
    ← List.append_assoc tripleQuote] at hopens

theorem closes_tripleQuoted (n : Nat) (w : List Char) : Closes (tripleQuoted n w) := by
  have hcloses := closes_append (String.ofList (List.replicate n ' ' ++ (tripleQuote ++ w)))
    settled_tripleQuote
  rwa [← String.ofList_append, List.append_assoc] at hcloses

/-- Indentation keeps the end of a literal. -/
theorem Enclosed.exists_indent (h : Enclosed w) (m n : Nat) :
    ∃ w', Enclosed w' ∧ indent m (tripleQuoted n w) = tripleQuoted (m + n) w' := by
  rcases lines_cases w with hline | ⟨first, mid, last, rfl, hfirst, hmid, hlast⟩
  · refine ⟨w, h, ?_⟩
    rw [(settled_tripleQuoted n hline).indent_eq, tripleQuoted, tripleQuoted, blanks,
      ← String.ofList_append, ← List.append_assoc, List.replicate_append_replicate]
  · rw [enclosed_unlines, List.forall_mem_cons] at h
    obtain ⟨⟨htame, hinner⟩, henclosed⟩ := h
    refine ⟨unlines (first :: mid.map (indentLine m) ++ [List.replicate m ' ' ++ last]), ?_, ?_⟩
    · rw [enclosed_unlines, List.forall_mem_cons, List.forall_mem_map]
      refine ⟨⟨htame, fun l hl => (hinner l hl).indentLine m⟩, ?_⟩
      rwa [Enclosed, scan_blanks]
    · refine eq_of_lines_eq ?_
      rw [lines_indent, lines_tripleQuoted n hfirst hmid hlast, lines_tripleQuoted (m + n) hfirst]
      · rw [List.map_cons, List.map_append, List.map_singleton,
          indentLine_of_quote (by simp [tripleQuote]), indentLine_of_quote (by simp [tripleQuote])]
        simp only [← List.append_assoc, List.replicate_append_replicate]
      · rw [List.forall_mem_map]
        exact fun l hl => plain_indentLine (hmid l hl) m
      · simp [hlast]

/-- Tidying keeps the end of a literal. -/
theorem Enclosed.exists_tidy (h : Enclosed w) (n : Nat) :
    ∃ w', Enclosed w' ∧ tidy (tripleQuoted n w) = tripleQuoted n w' := by
  rcases lines_cases w with hline | ⟨first, mid, last, rfl, hfirst, hmid, hlast⟩
  · exact ⟨w, h, (settled_tripleQuoted n hline).tidy_eq⟩
  · rw [enclosed_unlines, List.forall_mem_cons] at h
    obtain ⟨⟨htame, hinner⟩, henclosed⟩ := h
    refine ⟨unlines (trimEnd isBlank first :: squeeze 0 (mid.map (trimEnd isBlank)) ++ [last]),
      ?_, ?_⟩
    · rw [enclosed_unlines, List.forall_mem_cons]
      refine ⟨⟨htame.trimEnd, fun l hl => ?_⟩, henclosed⟩
      obtain ⟨line, hline, rfl⟩ := List.mem_map.mp (squeeze_subset 0 _ hl)
      exact (hinner line hline).trimEnd
    · have hclosing : trimEnd isBlank (last ++ tripleQuote) = last ++ tripleQuote := by
        have hnil : trimEnd isBlank [] = [] := rfl
        have hquote := trimEnd_append_tripleQuote last []
        rwa [List.append_nil, hnil, List.append_nil] at hquote
      refine eq_of_lines_eq ?_
      rw [lines_tidy, lines_tripleQuoted n hfirst hmid hlast, lines_tripleQuoted]
      · rw [List.map_cons, List.map_append, List.map_singleton, trimEnd_append_tripleQuote,
          hclosing, squeeze_cons (by simp [tripleQuote]), squeeze_concat (by simp [tripleQuote])]
      · exact fun h => hfirst ((trimEnd_sublist isBlank first).subset h)
      · intro l hl
        obtain ⟨line, hline, rfl⟩ := List.mem_map.mp (squeeze_subset 0 _ hl)
        exact fun h => hmid line hline ((trimEnd_sublist isBlank line).subset h)
      · exact hlast

end Python
end TrackingPlan
