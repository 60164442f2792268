import TrackingPlan.Proofs.Generator.Use
import TrackingPlan.Proofs.Json.Tokens
import TrackingPlan.Proofs.Python.Literals
import TrackingPlan.Proofs.Text.PhysicalLines

/-!
# The comment at the head of a module

A module starts with a comment that names the plan, and after it comes the first statement. The
comment marks stand after line feeds only, but a reader of the module takes a carriage return for
the end of a line as well. So the comment holds the name of the plan exactly when whatever follows a
carriage return in it is blank or a comment by itself.

Key definitions: `Python.IsRemark`, `Python.ReturnsToRemarks`, `Schema.headerComment`,
`Schema.KeepsToComment`.
Key theorems: `Python.forall_remarks_comment_iff`, `Python.exists_physicalLines_tidy`,
`Generator.header_remarks_iff`.
-/

namespace TrackingPlan
namespace Python

open Layout Text

/-- A physical line that says nothing to the reader of a module. -/
def IsRemark (l : List Char) : Prop := allBlank l ∨ l.head? = some '#'

instance (l : List Char) : Decidable (IsRemark l) := inferInstanceAs (Decidable (_ ∨ _))

/-- Whatever follows a carriage return is, up to the end of its line, a remark. -/
def ReturnsToRemarks (s : List Char) : Prop := ∀ t, '\r' :: t <:+ s → IsRemark (firstLine t)

theorem isRemark_nil : IsRemark [] := .inl rfl

theorem isRemark_append {w : List Char} (hw : w.all isBlank) (a : List Char) :
    IsRemark (a ++ w) ↔ IsRemark a := by
  cases a with
  | nil =>
    rw [List.nil_append]
    exact iff_of_true (.inl hw) isRemark_nil
  | cons c a =>
    have hblank : allBlank (c :: a ++ w) = allBlank (c :: a) := by
      rw [allBlank, List.all_append, hw, Bool.and_true, allBlank]
    rw [IsRemark, IsRemark, hblank]
    rfl

/-! ### Carriage returns in joined texts -/

/-- A character of two texts stands in the second one, or in the first one before all of the
second. -/
theorem cons_suffix_append_iff {c : Char} {t a b : List Char} :
    c :: t <:+ a ++ b ↔ c :: t <:+ b ∨ ∃ u, t = u ++ b ∧ c :: u <:+ a := by
  induction a with
  | nil => simp
  | cons d a ih =>
    rw [List.cons_append, List.suffix_cons_iff, ih]
    constructor
    · rintro (heq | hb | ⟨u, rfl, hu⟩)
      · obtain ⟨rfl, rfl⟩ := List.cons.inj heq
        exact .inr ⟨a, rfl, List.suffix_rfl⟩
      · exact .inl hb
      · exact .inr ⟨u, rfl, hu.trans (List.suffix_cons d a)⟩
    · rintro (hb | ⟨u, rfl, hu⟩)
      · exact .inr (.inl hb)
      · rcases List.suffix_cons_iff.mp hu with heq | hu
        · obtain ⟨rfl, rfl⟩ := List.cons.inj heq
          exact .inl rfl
        · exact .inr (.inr ⟨u, rfl, hu⟩)

theorem returns_append_iff {a b : List Char} : ReturnsToRemarks (a ++ b) ↔
    ReturnsToRemarks b ∧ ∀ u, '\r' :: u <:+ a → IsRemark (firstLine (u ++ b)) := by
  constructor
  · intro h
    refine ⟨fun t ht => h t (cons_suffix_append_iff.mpr (.inl ht)), fun u hu => ?_⟩
    exact h (u ++ b) (cons_suffix_append_iff.mpr (.inr ⟨u, rfl, hu⟩))
  · rintro ⟨hb, ha⟩ t ht
    rcases cons_suffix_append_iff.mp ht with ht | ⟨u, rfl, hu⟩
    · exact hb t ht
    · exact ha u hu

theorem returns_cons {c : Char} (h : c ≠ '\r') (s : List Char) :
    ReturnsToRemarks (c :: s) ↔ ReturnsToRemarks s := by
  constructor
  · exact fun hs t ht => hs t (ht.trans (List.suffix_cons c s))
  · intro hs t ht
    rcases List.suffix_cons_iff.mp ht with heq | ht
    · exact absurd (List.cons.inj heq).1.symm h
    · exact hs t ht

theorem returns_append_newline (a b : List Char) :
    ReturnsToRemarks (a ++ '\n' :: b) ↔ ReturnsToRemarks a ∧ ReturnsToRemarks b := by
  rw [returns_append_iff, returns_cons (by decide), and_comm]
  simp only [firstLine_append_newline, ReturnsToRemarks]

theorem returns_unlines : ∀ {ls : List (List Char)}, ls ≠ [] →
    (ReturnsToRemarks (unlines ls) ↔ ∀ l ∈ ls, ReturnsToRemarks l)
  | [l], _ => by rw [unlines_singleton, List.forall_mem_singleton]
  | l :: l' :: ls, _ => by
    rw [unlines_cons l (List.cons_ne_nil l' ls), returns_append_newline,
      returns_unlines (List.cons_ne_nil l' ls)]
    exact List.forall_mem_cons.symm

theorem returns_of_blank {w : List Char} (hw : w.all isBlank) : ReturnsToRemarks w := by
  intro t ht
  refine .inl (List.all_eq_true.mpr fun c hc => ?_)
  have hmem : c ∈ w := ht.subset (List.mem_cons_of_mem _ ((List.takeWhile_subset _) hc))
  exact List.all_eq_true.mp hw c hmem

/-- White space at the end makes no difference. -/
theorem returns_append_blank {w : List Char} (hw : w.all isBlank) (a : List Char) :
    ReturnsToRemarks (a ++ w) ↔ ReturnsToRemarks a := by
  have hfirst : ∀ u, IsRemark (firstLine (u ++ w)) ↔ IsRemark (firstLine u) := by
    intro u
    obtain ⟨t, ht, hstart⟩ := exists_firstLine_append u w
    have hblank : t.all isBlank :=
      List.all_eq_true.mpr fun c hc => List.all_eq_true.mp hw c (hstart.subset hc)
    rw [ht, isRemark_append hblank]
  rw [returns_append_iff, and_iff_right (returns_of_blank hw)]
  simp only [hfirst]
  rfl

theorem returns_of_no_return {s : List Char} (h : '\r' ∉ s) : ReturnsToRemarks s :=
  fun _ ht => absurd (ht.subset List.mem_cons_self) h

/-! ### Marked lines -/

/-- A line with the mark of a comment, unless it is blank. -/
def markedLine (l : List Char) : List Char := if allBlank l then l else '#' :: ' ' :: l

theorem plain_markedLine {l : List Char} (h : '\n' ∉ l) : '\n' ∉ markedLine l := by
  unfold markedLine
  split
  · exact h
  · simpa using h

/-- A marked line starts with the mark, or all of it is taken away. -/
theorem isRemark_firstLine_markedLine (l : List Char) :
    IsRemark (firstLine (trimEnd isBlank (markedLine l))) := by
  unfold markedLine
  split
  · rename_i hblank
    rw [trimEnd_of_all hblank]
    exact isRemark_nil
  · obtain ⟨w, hl, hw⟩ := exists_trimEnd_append isBlank ('#' :: ' ' :: l)
    cases htrim : trimEnd isBlank ('#' :: ' ' :: l) with
    | nil =>
      rw [htrim, List.nil_append] at hl
      rw [← hl] at hw
      exact absurd (List.all_eq_true.mp hw '#' List.mem_cons_self) (by decide)
    | cons c t =>
      rw [htrim] at hl
      obtain rfl : '#' = c := (List.cons.inj hl).1
      rw [firstLine_cons rfl]
      exact .inr rfl

theorem returns_markedLine (l : List Char) :
    ReturnsToRemarks (markedLine l) ↔ ReturnsToRemarks l := by
  unfold markedLine
  split
  · rfl
  · rw [returns_cons (by decide), returns_cons (by decide)]

/-- **A marked line is a comment** exactly when carriage returns in it lead to remarks. -/
theorem forall_remarks_markedLine_iff {l : List Char} (h : '\n' ∉ l) :
    (∀ x ∈ physicalLines (trimEnd isBlank (markedLine l)), IsRemark x) ↔ ReturnsToRemarks l := by
  obtain ⟨w, hl, hw⟩ := exists_trimEnd_append isBlank (markedLine l)
  have hplain : '\n' ∉ trimEnd isBlank (markedLine l) := fun hmem =>
    plain_markedLine h ((trimEnd_sublist isBlank _).subset hmem)
  have hends : (∀ c t, c :: t <:+ trimEnd isBlank (markedLine l) → isLineEnd c →
      IsRemark (firstLine t)) ↔ ReturnsToRemarks (trimEnd isBlank (markedLine l)) := by
    refine ⟨fun hall t ht => hall '\r' t ht rfl, fun hreturns c t ht hend => ?_⟩
    have hc : c = '\n' ∨ c = '\r' := by simpa [isLineEnd] using hend
    rcases hc with rfl | rfl
    · exact absurd (ht.subset List.mem_cons_self) hplain
    · exact hreturns t ht
  calc (∀ x ∈ physicalLines (trimEnd isBlank (markedLine l)), IsRemark x)
      ↔ ReturnsToRemarks (trimEnd isBlank (markedLine l)) := by
        rw [forall_physicalLines_iff isRemark_nil, hends,
          and_iff_right (isRemark_firstLine_markedLine l)]
    _ ↔ ReturnsToRemarks (markedLine l) := by
        rw [← returns_append_blank hw, ← hl]
    _ ↔ ReturnsToRemarks l := returns_markedLine l

/-! ### Tidied comments -/

/-- The physical lines of a tidied text are those of the lines that are left. -/
theorem physicalLines_tidyText (s : List Char) : physicalLines (tidyText s) =
    (squeeze 0 ((lines s).map (trimEnd isBlank))).flatMap physicalLines := by
  have hlines : squeeze 0 ((lines s).map (trimEnd isBlank)) ≠ [] :=
    squeeze_ne_nil (by simpa using lines_ne_nil s)
  refine physicalLines_unlines hlines fun l hl hreturn => ?_
  obtain ⟨line, -, rfl⟩ := List.mem_map.mp (squeeze_subset 0 _ hl)
  exact absurd (getLast?_trimEnd hreturn) (by decide)

theorem lines_markLines (s : List Char) : lines (markLines ['#'] s) = (lines s).map markedLine := by
  have hmarked : markLines ['#'] s = mapLines (fun _ => markedLine) s := rfl
  rw [hmarked, lines_mapLines fun _ l hl => plain_markedLine hl]
  refine List.ext_getElem (by simp) fun i _ _ => ?_
  rw [List.getElem_mapIdx, List.getElem_map]

/-- **A tidied comment is a comment** in all its physical lines exactly when carriage returns in
the text lead to remarks. -/
theorem forall_remarks_comment_iff (s : String) :
    (∀ x ∈ physicalLines (tidy (comment "#" s)).toList, IsRemark x) ↔
      ReturnsToRemarks s.toList := by
  have htext : (tidy (comment "#" s)).toList = tidyText (markLines ['#'] s.toList) := by
    rw [tidy, comment, onText, onText, String.toList_ofList, String.toList_ofList]
    rfl
  have hnil : ∀ x ∈ physicalLines [], IsRemark x := by
    rw [physicalLines_of_plain List.not_mem_nil List.not_mem_nil, List.forall_mem_singleton]
    exact isRemark_nil
  calc (∀ x ∈ physicalLines (tidy (comment "#" s)).toList, IsRemark x)
      ↔ ∀ y ∈ squeeze 0 (((lines s.toList).map markedLine).map (trimEnd isBlank)),
          ∀ x ∈ physicalLines y, IsRemark x := by
        rw [htext, physicalLines_tidyText, lines_markLines, List.forall_mem_flatMap]
    _ ↔ ∀ l ∈ lines s.toList, ∀ x ∈ physicalLines (trimEnd isBlank (markedLine l)),
          IsRemark x := by
        rw [forall_mem_squeeze_iff hnil]
        simp only [List.forall_mem_map]
    _ ↔ ∀ l ∈ lines s.toList, ReturnsToRemarks l :=
        forall₂_congr fun l hl => forall_remarks_markedLine_iff (plain_of_mem_lines hl)
    _ ↔ ReturnsToRemarks s.toList := by
        rw [← returns_unlines (lines_ne_nil _), unlines_lines]

/-! ### The head of a module -/

/-- A settled line that follows some text is still there after tidying, and the text before it is
tidied as if it stood alone. -/
theorem exists_physicalLines_tidy {first line : String} {others : List String}
    (hline : Settled line) (hreturn : '\r' ∉ line.toList) (hothers : others ≠ []) :
    ∃ rest, physicalLines (tidy (block (first :: line :: others))).toList =
      physicalLines (tidy first).toList ++ line.toList :: rest := by
  have hlines : lines (block (first :: line :: others)).toList =
      lines first.toList ++ line.toList :: lines (block others).toList := by
    rw [toList_block, List.map_cons, List.map_cons, unlines_cons _ (List.cons_ne_nil _ _),
      unlines_cons _ (by simpa using hothers), lines_append_newline, lines_append_newline,
      lines_of_plain hline.plain, toList_block]
    rfl
  have htidy (t : String) : (tidy t).toList = tidyText t.toList := by
    rw [tidy, onText, String.toList_ofList]
  rw [htidy, htidy, physicalLines_tidyText, physicalLines_tidyText, hlines, List.map_append,
    List.map_cons, hline.trimEnd_eq, squeeze_append_cons hline.ne_nil, List.flatMap_append,
    List.flatMap_cons, physicalLines_of_plain hline.plain hreturn]
  exact ⟨_, rfl⟩

/-- The first statement of a module goes through tidying. -/
theorem settled_firstStatement : Settled "from __future__ import annotations" where
  plain := by decide
  ending := ⟨"from __future__ import annotation".toList, 's', by decide, by decide⟩

theorem exists_physicalLines_moduleText (m : Module) (runtimeModule objectName : String)
    (imports versionLines methods enums : List String) : ∃ rest,
      physicalLines (tidy (moduleText m runtimeModule objectName imports versionLines methods
          enums)).toList =
        physicalLines (tidy (comment "#" (block m.header))).toList ++
          "from __future__ import annotations".toList :: rest := by
  unfold moduleText
  simp only [List.cons_append, List.nil_append]
  exact exists_physicalLines_tidy settled_firstStatement (by decide) (List.cons_ne_nil _ _)

end Python

open Layout Text Python Steps

namespace Schema

/-- The comment at the head of a module. -/
def headerComment (s : Schema) : String :=
  tidy (comment "#" (block (s.headerLines (toString s.versionNumber))))

/-- What follows a carriage return in the line that names the plan is a remark by itself. -/
def KeepsToComment (s : Schema) : Prop :=
  ReturnsToRemarks (s.projectId ++ " schema version " ++ toString s.versionNumber).toList

/-- **The head of a module is a comment** exactly when the line that names the plan keeps to it. -/
theorem forall_remarks_headerComment_iff (s : Schema) :
    (∀ x ∈ physicalLines s.headerComment.toList, IsRemark x) ↔ s.KeepsToComment := by
  have hfixed : ReturnsToRemarks "Generated with mammoth-codegen".toList ∧
      ReturnsToRemarks "Do not edit manually.".toList :=
    ⟨returns_of_no_return (by decide), returns_of_no_return (by decide)⟩
  rw [headerComment, forall_remarks_comment_iff, toList_block,
    returns_unlines (by simp [headerLines])]
  simp only [headerLines, List.map_cons, List.map_nil, List.forall_mem_cons, List.not_mem_nil,
    false_implies, implies_true, and_true, hfixed, KeepsToComment]

/-- A name without carriage returns keeps to the comment. -/
theorem keepsToComment_of_plain {s : Schema} (h : '\r' ∉ s.projectId.toList) :
    s.KeepsToComment := by
  refine returns_of_no_return ?_
  have hversion : '\r' ∉ (toString s.versionNumber).toList := by
    rw [Json.toList_toString_int]
    intro hmem
    rcases List.mem_append.mp hmem with hsign | hdigit
    · split at hsign
      · exact absurd hsign List.not_mem_nil
      · exact absurd (List.mem_singleton.mp hsign) (by decide)
    · have hdigit := Nat.isDigit_of_mem_toDigits (by omega) (by omega) hdigit
      exact absurd hdigit (by decide)
  have hfixed : '\r' ∉ " schema version ".toList := by decide
  simp only [String.toList_append, List.mem_append, not_or]
  exact ⟨⟨h, hfixed⟩, hversion⟩

end Schema

namespace Generator

variable {settings : Settings} {g h : Generator} {schema : Schema} {code : String}

/-- A module starts with the comment that names the plan, and the first statement follows it. -/
theorem exists_physicalLines_generate (hcreate : create .python settings = .ok g)
    (hreach : g.Reaches h) (htemplates : h.templates = g.templates)
    (hcode : (h.generate schema).1 = .ok code) :
    ∃ rest, physicalLines (tidy code).toList = physicalLines schema.headerComment.toList ++
      "from __future__ import annotations".toList :: rest := by
  obtain ⟨source, hsource, hrender⟩ := generate_eq_ok.mp hcode
  obtain ⟨-, _, style, scopes, -, -, hemitter, -⟩ := emitter_of_create_python hcreate hreach
  obtain ⟨taken, htaken⟩ := exists_moduleNames hemitter hrender
  obtain ⟨_, _, -, -, rfl⟩ := create_python_eq_ok.mp hcreate
  rw [render_eq_print (module?_of_emitter hemitter htaken), htemplates] at hrender
  obtain ⟨methods, _, runtime, object, imports, version, -, -, -, -, -, -, rfl⟩ :=
    Module.print_eq_ok.mp hrender
  have hheader : source.headerLines = schema.headerLines (toString schema.versionNumber) := by
    obtain ⟨_, _, -, -, -, rfl, -⟩ := Schema.toSource_eq_ok.mp hsource
    rfl
  obtain ⟨rest, hrest⟩ := exists_physicalLines_moduleText _ runtime object imports version methods _
  refine ⟨rest, hrest.trans ?_⟩
  rw [Schema.headerComment, ← hheader]
  rfl

/-- **What comes before the first statement of a module** is the comment that names the plan, and
all its physical lines are blank or comments exactly when the name keeps to the comment, as every
name without carriage returns does. -/
theorem header_remarks_iff (hcreate : create .python settings = .ok g) (hreach : g.Reaches h)
    (htemplates : h.templates = g.templates) (hcode : (h.generate schema).1 = .ok code) :
    ∃ header rest,
      physicalLines (tidy code).toList =
        header ++ "from __future__ import annotations".toList :: rest ∧
      header = physicalLines schema.headerComment.toList ∧
      ((∀ line ∈ header, IsRemark line) ↔ schema.KeepsToComment) ∧
      ('\r' ∉ schema.projectId.toList → schema.KeepsToComment) := by
  obtain ⟨rest, hrest⟩ := exists_physicalLines_generate hcreate hreach htemplates hcode
  exact ⟨_, rest, hrest, rfl, schema.forall_remarks_headerComment_iff,
    Schema.keepsToComment_of_plain⟩

/-- A name on several lines, one of which is marked as a comment already. -/
def severalLines : Schema where
  projectId := "shop\r\nfor all\r# teams"
  versionNumber := 3

/-- The name keeps to the comment. -/
theorem header_remarks_iff_severalLines :
    ∃ g code header rest, create .python Settings.default = .ok g ∧
      (g.generate severalLines).1 = .ok code ∧
      physicalLines (tidy code).toList =
        header ++ "from __future__ import annotations".toList :: rest ∧
      header = ["# shop".toList, "# for all".toList, "# teams schema version 3".toList,
        "# Generated with mammoth-codegen".toList, "# Do not edit manually.".toList] ∧
      ∀ line ∈ header, IsRemark line := by
  obtain ⟨g, code, hg, hcode⟩ : ∃ g code, create .python Settings.default = .ok g ∧
      (g.generate severalLines).1 = .ok code := exists_code (by decide +kernel)
  have hcomment : physicalLines severalLines.headerComment.toList = ["# shop".toList,
      "# for all".toList, "# teams schema version 3".toList,
      "# Generated with mammoth-codegen".toList, "# Do not edit manually.".toList] := by
    decide +kernel
  have hkeeps : severalLines.KeepsToComment := by
    rw [← severalLines.forall_remarks_headerComment_iff, hcomment]
    decide
  obtain ⟨header, rest, hlines, hheader, hremarks, -⟩ := header_remarks_iff hg .refl rfl hcode
  exact ⟨g, code, header, rest, hg, hcode, hlines, hheader.trans hcomment, hremarks.mpr hkeeps⟩

/-- A name that goes on after a carriage return. -/
def goesOn : Schema where
  projectId := "x\rimport os #"
  versionNumber := 1

/-- The name leaves the comment. -/
theorem header_goesOn :
    ∃ g code header rest, create .python Settings.default = .ok g ∧
      (g.generate goesOn).1 = .ok code ∧
      physicalLines (tidy code).toList =
        header ++ "from __future__ import annotations".toList :: rest ∧
      header = ["# x".toList, "import os # schema version 1".toList,
        "# Generated with mammoth-codegen".toList, "# Do not edit manually.".toList] ∧
      ¬ ∀ line ∈ header, IsRemark line := by
  obtain ⟨g, code, hg, hcode⟩ : ∃ g code, create .python Settings.default = .ok g ∧
      (g.generate goesOn).1 = .ok code := exists_code (by decide +kernel)
  have hcomment : physicalLines goesOn.headerComment.toList = ["# x".toList,
      "import os # schema version 1".toList, "# Generated with mammoth-codegen".toList,
      "# Do not edit manually.".toList] := by
    decide +kernel
  obtain ⟨rest, hlines⟩ := exists_physicalLines_generate hg .refl rfl hcode
  refine ⟨g, code, _, rest, hg, hcode, hlines, hcomment, ?_⟩
  rw [hcomment]
  decide

end Generator
end TrackingPlan
