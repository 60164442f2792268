import Mathlib.Data.List.Chain
import TrackingPlan.Proofs.Kotlin.Literals
import TrackingPlan.Proofs.Layout.Parts

/-!
# Comments in Kotlin code

The description of an event stands in a comment before its function. Comments nest, so neither of
the two marks may come up in it: the closing marks are broken up first, the opening ones next, and
this makes no new closing ones. The text is split into lines then, and every line gets a star and a
blank; a blank parts what is before it from what is after it, so no mark comes up there, and none
where blanks are put in front of a line or taken from its end.

Key definitions: `NoMarks`, `IsCommented`, `IsUncommented`, `IsDescribed`.
Key theorems: `noMarks_breakOpening`, `functionText_starts`, `IsCommented.tidy`,
`Function.isDescribed_of_print`, `File.stands_of_print`.
-/

namespace TrackingPlan
namespace Kotlin

open Layout Text Steps

/-- No two characters of the text are a mark that opens or closes a comment. -/
def NoMarks (s : List Char) : Prop := ¬ ['/', '*'] <:+: s ∧ ¬ ['*', '/'] <:+: s

/-- No character of the text is followed by the second one where it is the first one. -/
abbrev Apart (x y : Char) (s : List Char) : Prop := s.IsChain fun a b => a = x → b ≠ y

variable {x y c : Char} {s t : List Char}

theorem apart_iff : Apart x y s ↔ ¬ [x, y] <:+: s := by
  rw [Apart, List.isChain_iff_forall_rel_of_append_cons_cons]
  constructor
  · rintro h ⟨before, after, rfl⟩
    exact @h x y before after (by simp) rfl rfl
  · rintro h a b before after rfl rfl rfl
    exact h ⟨before, after, by simp⟩

theorem noMarks_iff : NoMarks s ↔ Apart '/' '*' s ∧ Apart '*' '/' s := by
  rw [apart_iff, apart_iff, NoMarks]

/-- A character that is part of no mark parts what is before it from what is after it. -/
theorem apart_append_cons (hx : c ≠ x) (hy : c ≠ y) :
    Apart x y (s ++ c :: t) ↔ Apart x y s ∧ Apart x y t := by
  rw [Apart, List.isChain_append, List.isChain_cons]
  simp [hx, hy, Apart]

theorem noMarks_append_cons (hc : c ∉ ['/', '*']) :
    NoMarks (s ++ c :: t) ↔ NoMarks s ∧ NoMarks t := by
  simp only [List.mem_cons, List.not_mem_nil, or_false, not_or] at hc
  obtain ⟨hslash, hstar⟩ := hc
  rw [noMarks_iff, noMarks_iff, noMarks_iff, apart_append_cons hslash hstar,
    apart_append_cons hstar hslash, and_and_and_comm]

theorem NoMarks.of_isInfix (h : NoMarks s) (ht : t <:+: s) : NoMarks t :=
  ⟨fun hopen => h.1 (hopen.trans ht), fun hclose => h.2 (hclose.trans ht)⟩

theorem noMarks_unlines : ∀ {ls : List (List Char)}, ls ≠ [] →
    (NoMarks (unlines ls) ↔ ∀ l ∈ ls, NoMarks l)
  | [l], _ => by rw [unlines_singleton, List.forall_mem_singleton]
  | l :: l' :: ls, _ => by
    rw [unlines_cons l (List.cons_ne_nil l' ls), noMarks_append_cons (by decide),
      noMarks_unlines (List.cons_ne_nil l' ls)]
    exact List.forall_mem_cons.symm

theorem noMarks_lines : NoMarks s ↔ ∀ l ∈ lines s, NoMarks l := by
  rw [← noMarks_unlines (lines_ne_nil s), unlines_lines]

/-! ### Marks broken up -/

theorem head?_breakClosing (s : List Char) : (breakClosing s).head? = s.head? := by
  fun_cases breakClosing s <;> rfl

theorem apart_breakClosing (s : List Char) : Apart '*' '/' (breakClosing s) := by
  fun_induction breakClosing s with
  | case1 rest ih =>
    have hparted := apart_append_cons (x := '*') (y := '/') (s := "*&#47".toList) (c := ';')
      (t := breakClosing rest) (by decide) (by decide)
    exact hparted.mpr ⟨by decide, ih⟩
  | case2 c rest hmark ih =>
    refine List.isChain_cons.mpr ⟨fun d hd => ?_, ih⟩
    rw [head?_breakClosing] at hd
    rintro rfl rfl
    obtain ⟨rest', rfl⟩ := List.head?_eq_some_iff.mp hd
    exact hmark rest' rfl rfl
  | case3 => exact .nil

/-- A text starts as before, or with the first character of a broken mark. -/
theorem head?_breakOpening (s : List Char) :
    (breakOpening s).head? = s.head? ∨ (breakOpening s).head? = some '&' := by
  fun_cases breakOpening s
  · exact .inr rfl
  · exact .inl rfl
  · exact .inl rfl

/-- No character comes to stand before the start of a text that was not there before. -/
theorem ne_head_breakOpening {d e : Char} (hd : d ∈ (breakOpening s).head?) (he : e ≠ '&')
    (hs : ∀ d' ∈ s.head?, d' ≠ e) : d ≠ e := by
  rcases head?_breakOpening s with hsame | hbroken
  · exact hs d (hsame ▸ hd)
  · rw [hbroken, Option.mem_some] at hd
    exact hd ▸ he.symm

/-- Breaking up the opening marks makes no closing ones. -/
theorem noMarks_breakOpening (h : Apart '*' '/' s) : NoMarks (breakOpening s) := by
  rw [noMarks_iff]
  fun_induction breakOpening s with
  | case1 rest ih =>
    obtain ⟨-, hstar⟩ := List.isChain_cons.mp h
    obtain ⟨hnext, hrest⟩ := List.isChain_cons.mp hstar
    obtain ⟨hopening, hclosing⟩ := ih hrest
    -- what stands for a stroke ends in a character that parts it from the star after it
    have hbefore : ∀ {x y : Char}, ';' ≠ x → ';' ≠ y → Apart x y "&#47".toList →
        Apart x y ('*' :: breakOpening rest) →
          Apart x y (brokenStroke ++ '*' :: breakOpening rest) :=
      fun hx hy hstart htail => (apart_append_cons hx hy).mpr ⟨hstart, htail⟩
    refine ⟨hbefore (by decide) (by decide) (by decide) ?_,
      hbefore (by decide) (by decide) (by decide) ?_⟩
    · exact List.isChain_cons.mpr ⟨fun _ _ hslash => absurd hslash (by decide), hopening⟩
    · refine List.isChain_cons.mpr ⟨fun d hd _ => ?_, hclosing⟩
      exact ne_head_breakOpening hd (by decide) fun d' hd' => hnext d' hd' rfl
  | case2 c rest hmark ih =>
    obtain ⟨hnext, hrest⟩ := List.isChain_cons.mp h
    obtain ⟨hopening, hclosing⟩ := ih hrest
    constructor
    · refine List.isChain_cons.mpr ⟨fun d hd => ?_, hopening⟩
      rintro rfl
      refine ne_head_breakOpening hd (by decide) fun d' hd' => ?_
      rintro rfl
      obtain ⟨rest', rfl⟩ := List.head?_eq_some_iff.mp hd'
      exact hmark rest' rfl rfl
    · refine List.isChain_cons.mpr ⟨fun d hd => ?_, hclosing⟩
      rintro rfl
      exact ne_head_breakOpening hd (by decide) fun d' hd' => hnext d' hd' rfl
  | case3 => exact ⟨.nil, .nil⟩

/-! ### Marks and layout -/

theorem noMarks_replicate_append (n : Nat) : NoMarks (List.replicate n ' ' ++ s) ↔ NoMarks s := by
  induction n with
  | zero => rfl
  | succ n ih =>
    have hnil : NoMarks [] := ⟨by decide, by decide⟩
    have hblank := noMarks_append_cons (s := []) (c := ' ') (t := List.replicate n ' ' ++ s)
      (by decide)
    rw [List.replicate_succ, List.cons_append, ← ih, ← List.nil_append (' ' :: _), hblank,
      and_iff_right hnil]

theorem NoMarks.indent {s : String} (h : NoMarks s.toList) (n : Nat) :
    NoMarks (indent n s).toList := by
  rw [noMarks_lines] at h ⊢
  rw [lines_indent, List.forall_mem_map]
  intro l hl
  unfold indentLine
  split
  · exact h l hl
  · exact (noMarks_replicate_append n).mpr (h l hl)

theorem NoMarks.trimEnd (h : NoMarks s) : NoMarks (trimEnd isBlank s) := by
  obtain ⟨w, hs, -⟩ := exists_trimEnd_append isBlank s
  exact h.of_isInfix ⟨[], w, hs.symm⟩

theorem NoMarks.tidy {s : String} (h : NoMarks s.toList) : NoMarks (tidy s).toList := by
  rw [noMarks_lines] at h ⊢
  rw [lines_tidy]
  intro l hl
  obtain ⟨line, hline, rfl⟩ := List.mem_map.mp (squeeze_subset 0 _ hl)
  exact (h line hline).trimEnd

/-- The lines of a description have no marks. -/
theorem noMarks_of_mem_descriptionLines {comments : Bool} {d l : String}
    (h : l ∈ descriptionLines comments d) : NoMarks l.toList := by
  unfold descriptionLines at h
  split at h
  · exact absurd h List.not_mem_nil
  · obtain ⟨line, hline, rfl⟩ := List.mem_map.mp h
    rw [String.toList_ofList]
    refine noMarks_lines.mp (NoMarks.trimEnd ?_) line hline
    exact (noMarks_breakOpening (apart_breakClosing d.toList)).of_isInfix
      (List.dropWhile_suffix isBlank).isInfix

theorem descriptionLines_eq_nil_iff {comments : Bool} {d : String} :
    descriptionLines comments d = [] ↔ (!comments || allBlank d.toList) = true := by
  unfold descriptionLines
  split
  · rename_i h
    simp only [h]
  · rename_i h
    simp only [h, List.map_eq_nil_iff, lines_ne_nil, Bool.false_eq_true]

/-! ### The comment of a function -/

/-- The text of a function that has a comment, all of it after some blanks: nothing between the two
marks of the comment is a mark. -/
def IsCommented (n : Nat) (text : String) : Prop :=
  ∃ inner rest, text =
      block [blanks n ++ "/**", inner, blanks n ++ " */", blanks n ++ "public fun" ++ rest] ∧
    NoMarks inner.toList

/-- The text of a function without a comment, after some blanks. -/
def IsUncommented (n : Nat) (text : String) : Prop :=
  ∃ rest, text = blanks n ++ "public fun" ++ rest

variable {n : Nat} {text : String} {options : Options} {style : Style} {f : EventFunction}
  {names : List String}

theorem settled_opening : Settled "/**" := ⟨by decide, "/*".toList, '*', by decide, by decide⟩

theorem settled_closing : Settled " */" := ⟨by decide, " *".toList, '/', by decide, by decide⟩

theorem settled_keyword : Settled "public fun" :=
  ⟨by decide, "public fu".toList, 'n', by decide, by decide⟩

/-- The lines of a function without its comment. -/
def codeLines (dualEventType : String) (k : Function) (parameters : List String)
    (arguments : List (String × String)) : List String :=
  ("public fun " ++ k.name ++ "(" ++ ", ".intercalate parameters ++ "): " ++
      dualEventType ++ " = " ++ dualEventType ++ "(") ::
    withCommas (arguments.map fun (name, value) => "    " ++ name ++ " = " ++ hang 4 value) ++ [")"]

theorem functionText_eq (dualEventType : String) (k : Function) (parameters : List String)
    (arguments : List (String × String)) : functionText dualEventType k parameters arguments =
      block (commentLines k.description ++ codeLines dualEventType k parameters arguments) := by
  rw [functionText, codeLines, List.append_assoc, List.append_assoc]
  rfl

/-- What follows the comment starts with the keyword. -/
theorem exists_block_codeLines (dualEventType : String) (k : Function) (parameters : List String)
    (arguments : List (String × String)) :
    ∃ rest, block (codeLines dualEventType k parameters arguments) = "public fun" ++ rest := by
  have hkeyword (name : String) : "public fun " ++ name = "public fun" ++ (" " ++ name) := by
    rw [← String.append_assoc]
    rfl
  simp only [codeLines, List.cons_append, String.append_assoc, hkeyword]
  exact ⟨_, block_append_cons _ _ _⟩

/-- A line of a description in the comment. -/
def commentLine (l : String) : String := if l = "" then " *" else " * " ++ l

theorem noMarks_commentLine {l : String} (h : NoMarks l.toList) :
    NoMarks (commentLine l).toList := by
  have hstar : NoMarks " *".toList := ⟨by decide, by decide⟩
  unfold commentLine
  split
  · exact hstar
  · rw [String.toList_append]
    exact (noMarks_append_cons (s := " *".toList) (c := ' ') (by decide)).mpr ⟨hstar, h⟩

/-- The comment of a function and what follows it. -/
theorem block_commentLines {description ls : List String} (h : description ≠ []) (hls : ls ≠ []) :
    block (commentLines description ++ ls) =
      block ["/**", block (description.map commentLine), " */", block ls] := by
  have hmap : description.map commentLine ≠ [] := by simpa using h
  have hlines : commentLines description = "/**" :: (description.map commentLine ++ [" */"]) := by
    rw [commentLines, if_neg (by simpa using h)]
    rfl
  rw [hlines, List.cons_append, List.append_assoc, List.singleton_append,
    block_cons _ (by simp), block_append hmap (by simp), block_cons _ hls]
  simp only [block_cons _ (List.cons_ne_nil _ _), block_singleton, String.append_assoc]

/-- **What the text of a function starts with**: its comment, which holds no marks, or its code. -/
theorem functionText_starts (dualEventType : String) (k : Function) (parameters : List String)
    (arguments : List (String × String)) (hmarks : ∀ l ∈ k.description, NoMarks l.toList) :
    if k.description = [] then IsUncommented 0 (functionText dualEventType k parameters arguments)
    else IsCommented 0 (functionText dualEventType k parameters arguments) := by
  obtain ⟨rest, hcode⟩ := exists_block_codeLines dualEventType k parameters arguments
  rw [functionText_eq]
  split
  · rename_i hempty
    rw [hempty, commentLines, List.isEmpty_nil, if_pos rfl, List.nil_append, hcode]
    exact ⟨rest, rfl⟩
  · rename_i hne
    rw [block_commentLines hne (by simp [codeLines]), hcode]
    refine ⟨block (k.description.map commentLine), rest, rfl, ?_⟩
    rw [toList_block, noMarks_unlines (by simpa using hne), List.map_map, List.forall_mem_map]
    exact fun l hl => noMarks_commentLine (hmarks l hl)

theorem closes_functionText (dualEventType : String) (k : Function) (parameters : List String)
    (arguments : List (String × String)) :
    Closes (functionText dualEventType k parameters arguments) := by
  have hend : Settled ")" := ⟨by decide, [], ')', by decide, by decide⟩
  rw [functionText_eq, codeLines, ← List.append_assoc, block_append (by simp) (by simp)]
  exact closes_append _ hend

/-! ### Comments in laid out code -/

theorem IsCommented.opens (h : IsCommented n text) : Opens text := by
  obtain ⟨inner, rest, rfl, -⟩ := h
  rw [block_cons _ (by simp), String.append_assoc]
  exact opens_append (settled_opening.blanks_append n) _

theorem IsUncommented.opens (h : IsUncommented n text) : Opens text := by
  obtain ⟨rest, rfl⟩ := h
  exact opens_append (settled_keyword.blanks_append n) rest

/-- Indentation goes through the comment without making a mark. -/
theorem IsCommented.indent (h : IsCommented n text) (m : Nat) :
    IsCommented (m + n) (indent m text) := by
  obtain ⟨inner, rest, rfl, hmarks⟩ := h
  obtain ⟨rest', hrest⟩ := exists_indent_append (settled_keyword.blanks_append n) m rest
  refine ⟨Layout.indent m inner, rest', ?_, hmarks.indent m⟩
  rw [indent_block m (by simp)]
  simp only [List.map_cons, List.map_nil, hrest, (settled_opening.blanks_append n).indent_eq,
    (settled_closing.blanks_append n).indent_eq, blanks_append_blanks]

/-- The marks of the comment and the code after it are tidied by themselves. -/
theorem IsCommented.tidy (h : IsCommented n text) : IsCommented n (tidy text) := by
  obtain ⟨inner, rest, rfl, hmarks⟩ := h
  obtain ⟨rest', hrest⟩ := exists_tidy_append (settled_keyword.blanks_append n) rest
  have hopening := settled_opening.blanks_append n
  have hclosing := settled_closing.blanks_append n
  have hend : Opens (blanks n ++ " */" ++ "\n" ++ (blanks n ++ "public fun" ++ rest)) := by
    rw [String.append_assoc]
    exact opens_append hclosing _
  refine ⟨Layout.tidy inner, rest', ?_, hmarks.tidy⟩
  simp only [block_cons _ (List.cons_ne_nil _ _), block_singleton]
  rw [tidy_append_of_closes hopening.closes, tidy_append_of_opens _ hend,
    tidy_append_of_closes hclosing.closes, hopening.tidy_eq, hclosing.tidy_eq, hrest]

theorem IsUncommented.indent (h : IsUncommented n text) (m : Nat) :
    IsUncommented (m + n) (indent m text) := by
  obtain ⟨rest, rfl⟩ := h
  obtain ⟨rest', hrest⟩ := exists_indent_append (settled_keyword.blanks_append n) m rest
  exact ⟨rest', by rw [hrest, blanks_append_blanks]⟩

theorem IsUncommented.tidy (h : IsUncommented n text) : IsUncommented n (tidy text) := by
  obtain ⟨rest, rfl⟩ := h
  exact exists_tidy_append (settled_keyword.blanks_append n) rest

/-! ### Functions and files -/

/-- The text of a function with a description: it has a comment exactly when there are to be
comments and the description is not blank. -/
def IsDescribed (options : Options) (description : String) (n : Nat) (text : String) : Prop :=
  if options.addComments && !allBlank description.toList then IsCommented n text
  else IsUncommented n text

variable {description : String}

theorem IsDescribed.opens (h : IsDescribed options description n text) : Opens text := by
  unfold IsDescribed at h
  split at h
  · exact h.opens
  · exact h.opens

theorem IsDescribed.map {n' : Nat} {text' : String} (h : IsDescribed options description n text)
    (hcommented : IsCommented n text → IsCommented n' text')
    (huncommented : IsUncommented n text → IsUncommented n' text') :
    IsDescribed options description n' text' := by
  unfold IsDescribed at h ⊢
  split
  · rename_i hcomment
    rw [if_pos hcomment] at h
    exact hcommented h
  · rename_i hnone
    rw [if_neg hnone] at h
    exact huncommented h

theorem IsDescribed.indent (h : IsDescribed options description n text) (m : Nat) :
    IsDescribed options description (m + n) (indent m text) :=
  h.map (·.indent m) (·.indent m)

theorem IsDescribed.tidy (h : IsDescribed options description n text) :
    IsDescribed options description n (tidy text) :=
  h.map (·.tidy) (·.tidy)

/-- The text of a function that no template changes. -/
theorem Function.exists_functionText {k : Function}
    (h : k.print style (.builtin names) = .ok text) :
    ∃ dualEventType parameters arguments,
      text = functionText dualEventType k parameters arguments := by
  obtain ⟨_, _, parameters, dual, arguments, -, -, -, -, -, rfl⟩ := print_eq_ok.mp h
  exact ⟨dual, parameters, arguments, rfl⟩

/-- **The text of a function has its description in a comment**, if it has any. -/
theorem Function.isDescribed_of_print
    (h : (Function.of options style f).print style (.builtin names) = .ok text) :
    IsDescribed options f.description 0 text := by
  obtain ⟨dual, parameters, arguments, rfl⟩ := exists_functionText h
  have hstarts := functionText_starts dual (Function.of options style f) parameters arguments
    fun _ hl => noMarks_of_mem_descriptionLines hl
  have hempty : (Function.of options style f).description = [] ↔
      (options.addComments && !allBlank f.description.toList) = false := by
    rw [Function.of, descriptionLines_eq_nil_iff]
    cases options.addComments <;> cases allBlank f.description.toList <;> decide
  unfold IsDescribed
  by_cases hnone : (Function.of options style f).description = []
  · rw [if_pos hnone] at hstarts
    rwa [hempty.mp hnone, if_neg Bool.false_ne_true]
  · rw [if_neg hnone] at hstarts
    rwa [if_pos (Bool.not_eq_false _ ▸ mt hempty.mpr hnone)]

theorem Function.closes_of_print {k : Function}
    (h : k.print style (.builtin names) = .ok text) : Closes text := by
  obtain ⟨dual, parameters, arguments, rfl⟩ := exists_functionText h
  exact closes_functionText dual k parameters arguments

/-- Every function stands in its file, indented. -/
theorem File.stands_of_print {source : SourceFile} {code : String}
    (hcode : (File.ofSource options style source).print style (.builtin names) = .ok code)
    (hf : f ∈ source.functions) :
    ∃ text, (Function.of options style f).print style (.builtin names) = .ok text ∧
      Stands (indent 4 text) code := by
  obtain ⟨functions, enums, package, object, version, hfunctions, -, -, -, -, rfl⟩ :=
    File.print_eq_ok.mp hcode
  rw [mapM_eq_ok, File.ofSource, List.forall₂_map_left_iff] at hfunctions
  obtain ⟨text, htext, hprint⟩ := Pairing.exists_right hfunctions hf
  refine ⟨text, hprint, ?_⟩
  rw [fileText, bodyLines_eq, List.append_assoc, List.append_assoc]
  exact stands_of_mem (by simp) (by simp) (indent_mem_spaced htext)

end Kotlin
end TrackingPlan
