import TrackingPlan.Proofs.Naming.Query
import TrackingPlan.Proofs.Naming.Scope
import TrackingPlan.Proofs.Pairing

/-!
# Names of one namespace

A namespace asks one scope for its names in order. When the scope starts without answers and the
names differ, the answers differ too, are none of the names that were taken before, and are safe:
neither keywords nor builtins, and without upper case letters in snake case.

Key definitions: `Scope.Knows`, `Scope.sanitizeAll`, `Scope.Safe`.
Key theorems: `Scope.sanitizeAll_knows`, `Scope.sanitizeAll_nodup`, `Scope.sanitizeAll_fresh`,
`Scope.sanitizeAll_safe`.
-/

namespace TrackingPlan
namespace Naming

/-- With the usual suffix the text of a request gives the request back. -/
theorem Scope.requestKey_inj {name name' : String} {form form' : LetterCase}
    (h : requestKey name form "_" = requestKey name' form' "_") : name = name' ∧ form = form' := by
  have hquery : Query.mk name form "_" = Query.mk name' form' "_" := Query.eq_of_key_eq rfl h
  obtain ⟨hname, hform, -⟩ := Query.mk.inj hquery
  exact ⟨hname, hform⟩

namespace Scope

/-! ### Requests that were answered -/

/-- The scope has given the answer to a request for the name. -/
def Knows (s : Scope) (form : LetterCase) (name answer : String) : Prop :=
  s.answers.get? (requestKey name form "_") = some answer

variable {s t : Scope} {form : LetterCase} {name answer : String}

theorem Knows.sanitize_eq (h : s.Knows form name answer) :
    s.sanitize name form = (answer, s) := by
  simp only [sanitize, show s.answers.get? (requestKey name form "_") = some answer from h]

theorem knows_sanitize (s : Scope) (form : LetterCase) (name : String) :
    (s.sanitize name form).2.Knows form name (s.sanitize name form).1 := by
  rcases sanitize_cases s name form "_" with ⟨a, ha, he⟩ | ⟨a, -, -, -, he⟩
  · rw [he]
    exact ha
  · rw [he, Knows, record, Assoc.get?_set, if_pos rfl]

theorem Knows.mono (h : s.Knows form name answer) (hst : s.Extends t) :
    t.Knows form name answer := hst.answers h

/-- A sound scope has one answer for one name only. -/
theorem Sound.name_eq (hs : s.Sound) {name' : String} (h : s.Knows form name answer)
    (h' : s.Knows form name' answer) : name = name' :=
  (requestKey_inj (hs.injective h h')).1

/-! ### A list of names -/

/-- The safe names for a list of names, and the scope that has handed them out. -/
def sanitizeAll (form : LetterCase) (s : Scope) : List String → List String × Scope
  | [] => ([], s)
  | name :: rest =>
    let (answer, s) := s.sanitize name form
    let (answers, s) := sanitizeAll form s rest
    (answer :: answers, s)

theorem sanitizeAll_cons (form : LetterCase) (s : Scope) (name : String) (rest : List String) :
    sanitizeAll form s (name :: rest) =
      ((s.sanitize name form).1 :: (sanitizeAll form (s.sanitize name form).2 rest).1,
        (sanitizeAll form (s.sanitize name form).2 rest).2) := rfl

theorem sanitizeAll_extends (form : LetterCase) : ∀ (s : Scope) (names : List String),
    s.Extends (sanitizeAll form s names).2
  | s, [] => .refl s
  | s, name :: rest =>
    (extends_sanitize s name form "_").trans (sanitizeAll_extends form _ rest)

theorem sanitizeAll_sound (form : LetterCase) : ∀ {s : Scope} (names : List String),
    s.Sound → (sanitizeAll form s names).2.Sound
  | _, [], h => h
  | _, name :: rest, h => sanitizeAll_sound form rest (h.sanitize name form "_")

/-- The scope afterwards knows every name by the answer that it gave. -/
theorem sanitizeAll_knows (form : LetterCase) : ∀ (s : Scope) (names : List String),
    List.Forall₂ (fun name answer => (sanitizeAll form s names).2.Knows form name answer) names
      (sanitizeAll form s names).1
  | _, [] => .nil
  | s, name :: rest =>
    .cons ((knows_sanitize s form name).mono (sanitizeAll_extends form _ rest))
      (sanitizeAll_knows form _ rest)

/-- The answers are what the scope gives for the names from then on. -/
theorem sanitizeAll_eq_map (form : LetterCase) (s : Scope) (names : List String) :
    (sanitizeAll form s names).1 =
      names.map fun name => ((sanitizeAll form s names).2.sanitize name form).1 :=
  Pairing.eq_map (sanitizeAll_knows form s names) fun h => by rw [h.sanitize_eq]

/-- **Different names have different answers.** -/
theorem sanitizeAll_nodup (hs : s.Sound) {names : List String} (hn : names.Nodup) :
    (sanitizeAll form s names).1.Nodup :=
  Pairing.nodup_right (sanitizeAll_knows form s names)
    (fun h h' => (sanitizeAll_sound form names hs).name_eq h h') hn

/-- **No answer was taken before**, when the scope starts without answers. -/
theorem sanitizeAll_fresh (hs : s.answers = []) {names : List String}
    (h : answer ∈ (sanitizeAll form s names).1) : answer ∉ s.used := by
  obtain ⟨name, -, hknows⟩ := Pairing.exists_left (sanitizeAll_knows form s names) h
  rcases (sanitizeAll_extends form s names).fresh hknows with hold | hfree
  · rw [hs] at hold
    exact nomatch hold
  · exact hfree

/-! ### Safe names -/

/-- A name that is no word of the scope, and in snake case no upper case letter is in it. -/
structure Safe (s : Scope) (form : LetterCase) (answer : String) : Prop where
  notKeyword : answer ∉ s.keywords
  notBuiltin : answer ∉ s.builtins
  isLower : form = .snake → ∀ c ∈ answer.toList, c.isUpper = false

/-- No word of the scope has an underscore in it. -/
def PlainWords (s : Scope) : Prop := ∀ w ∈ s.keywords ++ s.builtins, '_' ∉ w.toList

theorem PlainWords.not_mem (hs : s.PlainWords) (h : '_' ∈ answer.toList) :
    answer ∉ s.keywords ∧ answer ∉ s.builtins := by
  constructor
  · exact fun hk => hs answer (List.mem_append_left _ hk) h
  · exact fun hb => hs answer (List.mem_append_right _ hb) h

theorem isUpper_of_mem_safeForm {c : Char} (h : c ∈ (safeForm name .snake).toList) :
    c.isUpper = false := by
  have hword : ∀ c ∈ snakeWord (plainWord name.toList), c.isUpper = false :=
    fun _ => isUpper_of_mem_snakeWord
  simp only [safeForm, String.toList_ofList] at h
  generalize snakeWord (plainWord name.toList) = word at h hword
  cases word with
  | nil => exact absurd h List.not_mem_nil
  | cons d rest =>
    simp only at h
    split at h
    · rcases List.mem_cons.mp h with rfl | h
      · decide
      · exact hword c h
    · exact hword c h

/-- A new answer is the safe form itself, or the safe form with an underscore and digits after
it. -/
theorem resolve_eq_append (s : Scope) (name : String) :
    s.resolve name "_" = name ∧ name ∉ s.keywords ∧ name ∉ s.builtins ∨
      ∃ tail : String, s.resolve name "_" = name ++ tail ∧ '_' ∈ tail.toList ∧
        ∀ c ∈ tail.toList, c = '_' ∨ c.isDigit := by
  have hdigits : ∀ k : Nat, ∀ c ∈ ("_" ++ toString k).toList, c = '_' ∨ c.isDigit := by
    intro k c hc
    rw [String.toList_append, List.mem_append] at hc
    rcases hc with hc | hc
    · exact Or.inl (List.mem_singleton.mp hc)
    · rw [Nat.toString_eq_repr, Nat.toList_repr] at hc
      exact Or.inr (Nat.isDigit_of_mem_toDigits (by decide) (by decide) hc)
  have hmem : ∀ k : Nat, '_' ∈ ("_" ++ toString k).toList := fun k => by simp
  by_cases hw : name ∈ s.keywords ∨ name ∈ s.builtins
  · have hbase : s.base name "_" = name ++ "_" := if_pos hw
    rcases resolve_eq s name "_" with ⟨h, -⟩ | ⟨k, h⟩
    · exact Or.inr ⟨"_", h.trans hbase, by decide, fun c hc => Or.inl (List.mem_singleton.mp hc)⟩
    · refine Or.inr ⟨"_" ++ ("_" ++ toString k), ?_, ?_, ?_⟩
      · rw [h, hbase, numbered, String.append_assoc, String.append_assoc]
      · rw [String.toList_append]
        exact List.mem_append_left _ (by decide)
      · intro c hc
        rw [String.toList_append, List.mem_append] at hc
        exact hc.elim (fun hc => Or.inl (List.mem_singleton.mp hc)) (hdigits k c)
  · have hbase : s.base name "_" = name := if_neg hw
    rcases resolve_eq s name "_" with ⟨h, -⟩ | ⟨k, h⟩
    · exact Or.inl ⟨h.trans hbase, not_or.mp hw⟩
    · refine Or.inr ⟨"_" ++ toString k, ?_, hmem k, hdigits k⟩
      rw [h, hbase, numbered, String.append_assoc]

theorem resolve_safe (hs : s.PlainWords) (name : String) (form : LetterCase) :
    s.Safe form (s.resolve (safeForm name form) "_") := by
  rcases resolve_eq_append s (safeForm name form) with ⟨h, hk, hb⟩ | ⟨tail, h, htail, hchars⟩
  · rw [h]
    exact ⟨hk, hb, by rintro rfl c hc; exact isUpper_of_mem_safeForm hc⟩
  · have hmem : '_' ∈ (s.resolve (safeForm name form) "_").toList := by
      rw [h, String.toList_append]
      exact List.mem_append_right _ htail
    refine ⟨(hs.not_mem hmem).1, (hs.not_mem hmem).2, ?_⟩
    rintro rfl c hc
    rw [h, String.toList_append, List.mem_append] at hc
    rcases hc with hc | hc
    · exact isUpper_of_mem_safeForm hc
    · rcases hchars c hc with rfl | hdigit
      · rfl
      · exact isUpper_of_isDigit hdigit

/-- Every answer that the scope remembers is safe. -/
def AllSafe (s : Scope) : Prop :=
  ∀ {form name answer}, s.Knows form name answer → s.Safe form answer

theorem AllSafe.of_no_answers (h : s.answers = []) : s.AllSafe := by
  intro form name answer hknows
  rw [Knows, h] at hknows
  exact nomatch hknows

theorem AllSafe.sanitize (hs : s.PlainWords) (h : s.AllSafe) (name : String)
    (form : LetterCase) : (s.sanitize name form).2.AllSafe := by
  rcases sanitize_cases s name form "_" with ⟨a, -, he⟩ | ⟨a, -, ha, -, he⟩
  · rw [he]
    exact h
  · rw [he]
    intro form' name' answer hknows
    rw [Knows, record, Assoc.get?_set] at hknows
    split at hknows
    · rename_i hkey
      obtain ⟨-, rfl⟩ := requestKey_inj hkey
      rw [Option.some.injEq] at hknows
      have hsafe := resolve_safe hs name form'
      rw [← ha, hknows] at hsafe
      exact ⟨hsafe.notKeyword, hsafe.notBuiltin, hsafe.isLower⟩
    · have hsafe := h hknows
      exact ⟨hsafe.notKeyword, hsafe.notBuiltin, hsafe.isLower⟩

theorem sanitizeAll_allSafe (form : LetterCase) : ∀ {s : Scope} (names : List String),
    s.PlainWords → s.AllSafe → (sanitizeAll form s names).2.AllSafe
  | _, [], _, h => h
  | s, name :: rest, hs, h => by
    have hext := extends_sanitize s name form "_"
    have hplain : (s.sanitize name form "_").2.PlainWords := by
      rw [PlainWords, hext.keywords, hext.builtins]
      exact hs
    exact sanitizeAll_allSafe form rest hplain (h.sanitize hs name form)

/-- **Every answer is safe**, when the scope starts without answers. -/
theorem sanitizeAll_safe (hs : s.answers = []) (hw : s.PlainWords) {names : List String}
    (h : answer ∈ (sanitizeAll form s names).1) : s.Safe form answer := by
  obtain ⟨name, -, hknows⟩ := Pairing.exists_left (sanitizeAll_knows form s names) h
  have hsafe := sanitizeAll_allSafe form names hw (AllSafe.of_no_answers hs) hknows
  have hext := sanitizeAll_extends form s names
  exact ⟨hext.keywords ▸ hsafe.notKeyword, hext.builtins ▸ hsafe.notBuiltin, hsafe.isLower⟩

end Scope
end Naming
end TrackingPlan
