import TrackingPlan.Proofs.Generator.Strings
import TrackingPlan.Proofs.Python.Literals
import TrackingPlan.Proofs.Python.TripleQuoted

/-!
# Docstrings

A description is written in three steps: backslashes are doubled, a quote at the end is escaped, and
then every three quotes in a row are. The first two steps look at single characters only and are
one. The last step finds no quote that is escaped already among its three, for a backslash before a
quote only comes up at the end; what it leaves are at most two quotes in a row, and another
character after them. So the content is put together from pieces that each can stand between triple
quotes and are read back.

Key definitions: `escapeSingly`, `Spells`, `withLastLine`.
Key theorems: `spells_docstringBody`, `exists_docstring`, `Module.stands_of_print`.
-/

namespace TrackingPlan
namespace Python

open Layout Text Steps

variable {c : Char} {s t w : List Char} {n q : Nat}

/-! ### What is written for a description -/

/-- The text with every backslash and a quote at its end escaped. -/
def escapeSingly : List Char → List Char
  | ['"'] => ['\\', '"']
  | '\\' :: s => '\\' :: '\\' :: escapeSingly s
  | c :: s => c :: escapeSingly s
  | [] => []

theorem doubleBackslashes_eq_nil_iff : doubleBackslashes s = [] ↔ s = [] := by
  fun_cases doubleBackslashes s <;> simp

theorem escapeLastQuote_cons (h : c = '"' → s ≠ []) :
    escapeLastQuote (c :: s) = c :: escapeLastQuote s := by
  rw [escapeLastQuote]
  exact h

/-- The first two steps are one. -/
theorem escapeLastQuote_doubleBackslashes (s : List Char) :
    escapeLastQuote (doubleBackslashes s) = escapeSingly s := by
  fun_induction escapeSingly s with
  | case1 => rfl
  | case2 s ih =>
    have hback {t : List Char} : escapeLastQuote ('\\' :: t) = '\\' :: escapeLastQuote t :=
      escapeLastQuote_cons fun h => absurd h (by decide)
    rw [doubleBackslashes, if_pos rfl, hback, hback, ih]
  | case3 c s hlast hback ih =>
    have hnext : c = '"' → doubleBackslashes s ≠ [] := fun hc =>
      mt doubleBackslashes_eq_nil_iff.mp (hlast hc)
    rw [doubleBackslashes, if_neg hback, escapeLastQuote_cons hnext, ih]
  | case4 => rfl

theorem escapeTripleQuotes_quotes (hc : c ≠ '"') (hq : q ≤ 2) (s : List Char) :
    escapeTripleQuotes (List.replicate q '"' ++ c :: s) =
      List.replicate q '"' ++ c :: escapeTripleQuotes s := by
  have hone : ∀ {t : List Char}, (∀ t', t ≠ '"' :: '"' :: t') →
      escapeTripleQuotes ('"' :: t) = '"' :: escapeTripleQuotes t := fun ht => by
    rw [escapeTripleQuotes]
    exact fun t' _ => ht t'
  have hplain : escapeTripleQuotes (c :: s) = c :: escapeTripleQuotes s := by
    rw [escapeTripleQuotes]
    exact fun _ h => absurd h hc
  have hnext : escapeTripleQuotes ('"' :: c :: s) = '"' :: c :: escapeTripleQuotes s := by
    rw [hone fun t' h => hc (List.cons.inj h).1, hplain]
  match q, hq with
  | 0, _ => exact hplain
  | 1, _ => exact hnext
  | 2, _ =>
    have hsecond : ∀ t', '"' :: c :: s ≠ '"' :: '"' :: t' := fun t' h =>
      hc (List.cons.inj (List.cons.inj h).2).1
    exact (hone hsecond).trans (congrArg _ hnext)

/-! ### What a content stands for -/

/-- The content can stand between triple quotes, and it stands for the text, whatever is written
after it. -/
structure Spells (w s : List Char) : Prop where
  enclosed : Enclosed w
  decoded : ∀ rest, Template.decode? (w ++ rest) = (Template.decode? rest).map (s ++ ·)

theorem Spells.decode?_eq (h : Spells w s) : literalRules.decode? w = some s := by
  have hnil : Template.decode? [] = some [] := rfl
  have hdecoded := h.decoded []
  rwa [List.append_nil, hnil, Option.map_some, List.append_nil] at hdecoded

theorem Spells.nil : Spells [] [] := ⟨rfl, fun rest => by simp⟩

theorem Spells.append {w' s' : List Char} (h : Spells w s) (h' : Spells w' s') :
    Spells (w ++ w') (s ++ s') where
  enclosed := by
    rw [Enclosed, scan_append, h.enclosed]
    exact h'.enclosed
  decoded rest := by
    rw [List.append_assoc, h.decoded, h'.decoded, Option.map_map]
    simp [Function.comp_def]

open Template in
theorem decode?_quotes (q : Nat) (s : List Char) :
    decode? (List.replicate q '"' ++ s) = (decode? s).map (List.replicate q '"' ++ ·) := by
  induction q with
  | zero => simp
  | succ q ih =>
    rw [List.replicate_succ, List.cons_append, decode?_plain (by decide), ih, Option.map_map]
    rfl

/-- Fewer than three quotes and a character that is neither a quote nor a backslash. -/
theorem spells_plain (hq : q ≤ 2) (hc : c ∉ ['\\', '"']) :
    Spells (List.replicate q '"' ++ [c]) (List.replicate q '"' ++ [c]) where
  enclosed := by rw [Enclosed, scan_quotes hq, scan_plain hc]; rfl
  decoded rest := by
    have hback : c ≠ '\\' := List.ne_of_not_mem_cons hc
    rw [List.append_assoc, decode?_quotes, List.singleton_append, decode?_plain hback,
      Option.map_map]
    simp [Function.comp_def]

/-- Fewer than three quotes and an escaped quote or backslash. -/
theorem spells_escape (hq : q ≤ 2) (hc : c ∈ ['\\', '"']) :
    Spells (List.replicate q '"' ++ ['\\', c]) (List.replicate q '"' ++ [c]) where
  enclosed := by
    rw [Enclosed, scan_quotes hq, scan_backslash, scan_escape, if_pos (by simpa using hc)]
    rfl
  decoded rest := by
    have hletter : Template.letterEscape? c = some c := by
      rcases List.mem_pair.mp hc with rfl | rfl <;> rfl
    rw [List.append_assoc, decode?_quotes]
    simp only [List.cons_append, List.nil_append, decode?_letter hletter, Option.map_map]
    simp [Function.comp_def]

/-- Three quotes in a row, each of them escaped. -/
theorem spells_tripleQuote : Spells ['\\', '"', '\\', '"', '\\', '"'] tripleQuote := by
  have hone : Spells ['\\', '"'] ['"'] := spells_escape (Nat.zero_le 2) (by decide)
  exact (hone.append hone).append hone

/-- The last step, when fewer than three quotes stand before the text. -/
theorem spells_escapeTripleQuotes (s : List Char) : ∀ {q : Nat}, q ≤ 2 → (q ≠ 0 → s ≠ []) →
    Spells (escapeTripleQuotes (List.replicate q '"' ++ escapeSingly s))
      (List.replicate q '"' ++ s) := by
  fun_induction escapeSingly s with
  | case1 =>
    intro q hq _
    rw [escapeTripleQuotes_quotes (by decide) hq]
    exact spells_escape hq (by decide)
  | case2 s ih =>
    intro q hq _
    have hsecond := escapeTripleQuotes_quotes (c := '\\') (by decide) (Nat.zero_le 2)
    simp only [List.replicate_zero, List.nil_append] at hsecond
    rw [escapeTripleQuotes_quotes (by decide) hq, hsecond]
    have hpiece := spells_escape (c := '\\') hq (by decide)
    simpa using hpiece.append (ih (Nat.zero_le 2) (absurd rfl))
  | case3 c s hlast hback ih =>
    intro q hq _
    by_cases hquote : c = '"'
    · subst hquote
      rcases Nat.lt_or_eq_of_le hq with hlt | rfl
      -- the quote joins those before it, or it is the third one and they are escaped
      · have hnext := ih (q := q + 1) (by omega) fun _ => hlast rfl
        simpa [List.replicate_succ'] using hnext
      · exact spells_tripleQuote.append (ih (Nat.zero_le 2) (absurd rfl))
    · have hplain : c ∉ ['\\', '"'] := fun h => (List.mem_pair.mp h).elim hback hquote
      rw [escapeTripleQuotes_quotes hquote hq]
      simpa using (spells_plain hq hplain).append (ih (Nat.zero_le 2) (absurd rfl))
  | case4 =>
    intro q _ hs
    obtain rfl : q = 0 := by simpa using hs
    exact .nil

/-- **What is written for a description stands for it.** -/
theorem spells_docstringBody (s : List Char) : Spells (docstringBody s) s := by
  rw [docstringBody, escapeLastQuote_doubleBackslashes]
  exact spells_escapeTripleQuotes s (Nat.zero_le 2) (absurd rfl)

/-! ### The literal of a description -/

theorem newline_mem_escapeSingly (s : List Char) : '\n' ∈ escapeSingly s ↔ '\n' ∈ s := by
  fun_induction escapeSingly s <;> simp_all

theorem newline_mem_escapeTripleQuotes (s : List Char) :
    '\n' ∈ escapeTripleQuotes s ↔ '\n' ∈ s := by
  fun_induction escapeTripleQuotes s <;> simp_all

theorem newline_mem_docstringBody (s : List Char) : '\n' ∈ docstringBody s ↔ '\n' ∈ s := by
  rw [docstringBody, escapeLastQuote_doubleBackslashes, newline_mem_escapeTripleQuotes,
    newline_mem_escapeSingly]

/-- A text with a line end after it when it has more than one line. -/
def withLastLine (s : List Char) : List Char := if '\n' ∈ s then s ++ ['\n'] else s

/-- **A description that is not blank has a docstring**, whose content stands for it. -/
theorem exists_docstring {d : String} (h : allBlank d.toList = false) :
    ∃ content, docstring true d = some (tripleQuoted 0 content) ∧
      Spells content (withLastLine (trim isBlank d.toList)) := by
  have hbody := spells_docstringBody (trim isBlank d.toList)
  have hline : Spells ['\n'] ['\n'] := spells_plain (Nat.zero_le 2) (by decide)
  have hnewline := newline_mem_docstringBody (trim isBlank d.toList)
  simp only [docstring, h, Bool.not_true, Bool.or_self, Bool.false_eq_true, if_false, withLastLine,
    ← hnewline]
  split
  · refine ⟨_, ?_, hbody.append hline⟩
    simp [tripleQuoted]
  · refine ⟨_, ?_, hbody⟩
    simp [tripleQuoted]

/-! ### Modules -/

variable {options : Options} {style : Style} {names : List String} {doc code : String}

/-- The docstring of every method is that of its function. -/
theorem methods_docstrings (options : Options) (style : Style) : ∀ (fs : List EventFunction)
    (s : Scopes), List.Forall₂
      (fun f (m : Method) => m.docstring = docstring options.addComments f.description) fs
        (fs.mapM (Method.of options style) s).1
  | [], _ => .nil
  | f :: fs, s => by
    rw [mapM_cons_apply]
    exact .cons rfl (methods_docstrings options style fs _)

theorem stands_methodText (dualEventType : String) {m : Method} (h : m.docstring = some doc)
    (defaults arguments : List (String × String)) :
    Stands (indent 4 doc) (methodText dualEventType m defaults arguments) := by
  rw [methodText, h]
  simp only [List.append_assoc]
  rw [← List.append_assoc]
  exact stands_of_mem (by simp) (by simp) List.mem_cons_self

/-- Every docstring stands in its module, indented with its method. -/
theorem Module.stands_of_print {taken : List String} {source : SourceFile} {s : Scopes}
    {f : EventFunction} (hcode : (Module.ofSource options style taken source s).1.print style
      (.builtin names) = .ok code)
    (hf : f ∈ source.functions) (hdoc : docstring options.addComments f.description = some doc) :
    Stands (indent 4 (indent 4 doc)) code := by
  obtain ⟨texts, imports, runtime, object, importNames, version, hprint, -, -, -, -, -, rfl⟩ :=
    Module.print_eq_ok.mp hcode
  have hdocstrings : List.Forall₂
      (fun f (m : Method) => m.docstring = docstring options.addComments f.description)
      source.functions (Module.ofSource options style taken source s).1.methods :=
    methods_docstrings options style _ _
  obtain ⟨m, hm, hmethod⟩ := Pairing.exists_right hdocstrings hf
  obtain ⟨text, htext, hprint⟩ := Pairing.exists_right (mapM_eq_ok.mp hprint) hm
  obtain ⟨_, _, _, defaults, dual, arguments, -, -, -, -, -, -, rfl⟩ := Method.print_eq_ok.mp hprint
  refine ((stands_methodText dual (hmethod.trans hdoc) defaults arguments).indent 4).trans ?_
  rw [moduleText, List.append_assoc, bodyLines_eq (List.ne_nil_of_mem htext)]
  exact stands_of_mem (by simp) (by simp) (indent_mem_spaced htext)

end Python
end TrackingPlan
