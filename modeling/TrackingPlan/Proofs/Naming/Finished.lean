import Mathlib.Data.List.DropRight
import TrackingPlan.Proofs.Naming.Memory
import TrackingPlan.Proofs.Naming.Segments

/-!
# Finished names

What a cleared scope gives for a name is the form of its word, with an underscore before a digit at
the start and one after a word of the scope. Such a name is finished. Asked for again it loses these
underscores first, and what is left is the word in its form, which no other step changes; so the
underscores come back, and the name with them. All other names are given another one.

Key definitions: `IsFormed`, `Scope.Finished`.
Key theorems: `isFormed_wordForm`, `IsFormed.safeForm_eq`, `Scope.clear_after`,
`Scope.finished_base`, `Scope.Finished.base_eq`.
-/

namespace TrackingPlan
namespace Naming

variable {form : LetterCase} {word t : List Char} {name : String}

/-! ### Underscores at the ends -/

theorem trimUnderscores_cons_underscore (s : List Char) :
    trimUnderscores ('_' :: s) = trimUnderscores s := rfl

theorem trimUnderscores_append_underscore (s : List Char) :
    trimUnderscores (s ++ ['_']) = trimUnderscores s := by
  show ((s ++ ['_']).dropWhile (· = '_')).rdropWhile (· = '_') = trimUnderscores s
  rw [List.dropWhile_append]
  by_cases hnone : (s.dropWhile (· = '_')).isEmpty
  · -- nothing but underscores: the last one goes from the start like the others
    rw [if_pos hnone, trimUnderscores, List.isEmpty_iff.mp hnone]
    rfl
  · rw [if_neg hnone, List.rdropWhile_concat_pos (fun c => decide (c = '_')) _ '_' rfl]
    rfl

theorem trimUnderscores_guarded (word : List Char) :
    trimUnderscores (guarded word) = trimUnderscores word := by
  rcases guarded_cases word with hsame | hlonger
  · rw [hsame]
  · rw [hlonger, trimUnderscores_cons_underscore]

theorem isWordChar_of_mem_guarded (h : ∀ c ∈ word, isWordChar c) :
    ∀ c ∈ guarded word, isWordChar c := by
  rcases guarded_cases word with hsame | hlonger
  · rwa [hsame]
  · rw [hlonger]
    exact List.forall_mem_cons.mpr ⟨rfl, h⟩

/-! ### Words in their form -/

/-- A word that is in the form already: it has characters of words, at its ends other ones than
underscores, and in snake case it is settled. -/
structure IsFormed (form : LetterCase) (word : List Char) : Prop where
  ne_nil : word ≠ []
  chars : ∀ c ∈ word, isWordChar c
  head : ∀ c ∈ word.head?, c ≠ '_'
  last : ∀ c ∈ word.getLast?, c ≠ '_'
  settled : form = .snake → IsSettled word

theorem ends_plainWord (s : List Char) : (∀ c ∈ (plainWord s).head?, c ≠ '_') ∧
    ∀ c ∈ (plainWord s).getLast?, c ≠ '_' := by
  rcases plainWord_cases s with hfield | ⟨-, hword⟩
  · rw [hfield]
    simp
  · rw [hword]
    exact ends_trimUnderscores (masked s)

/-- **The form of a name is a word in this form.** -/
theorem isFormed_wordForm (name : List Char) (form : LetterCase) :
    IsFormed form (wordForm name form) := by
  have hne := wordForm_ne_nil name form
  have hchars := isWordChar_of_mem_wordForm name form
  cases form with
  | preserve =>
    obtain ⟨hhead, hlast⟩ := ends_plainWord name
    exact ⟨hne, hchars, hhead, hlast, nofun⟩
  | snake =>
    have hsettled : IsSettled (snakeWord (plainWord name)) :=
      isSettled_snakeWord isWordChar_of_mem_plainWord
    exact ⟨hne, hchars, hsettled.head, hsettled.last, fun _ => hsettled⟩

namespace IsFormed

theorem trimUnderscores_eq (h : IsFormed form word) : trimUnderscores word = word :=
  trimUnderscores_of_ends h.head h.last

/-- A name that is such a word between underscores has it as its form. -/
theorem wordForm_eq (h : IsFormed form word) (hchars : ∀ c ∈ t, isWordChar c)
    (htrim : trimUnderscores t = word) : wordForm t form = word := by
  have hplain : plainWord t = word :=
    (plainWord_of_chars hchars (htrim.symm ▸ h.ne_nil)).trans htrim
  cases form with
  | preserve => exact hplain
  | snake => rw [wordForm, hplain, (h.settled rfl).snakeWord_eq]

theorem safeForm_eq (h : IsFormed form word) (hchars : ∀ c ∈ name.toList, isWordChar c)
    (htrim : trimUnderscores name.toList = word) :
    Scope.safeForm name form = String.ofList (guarded word) := by
  rw [Scope.safeForm_eq_guarded, h.wordForm_eq hchars htrim]

/-- A word that has its underscore before a digit keeps it. -/
theorem safeForm_guarded (h : IsFormed form word) :
    Scope.safeForm (String.ofList (guarded word)) form = String.ofList (guarded word) := by
  apply h.safeForm_eq
  · rw [String.toList_ofList]
    exact isWordChar_of_mem_guarded h.chars
  · rw [String.toList_ofList, trimUnderscores_guarded, h.trimUnderscores_eq]

/-- One more underscore at its end is taken away. -/
theorem safeForm_suffixed (h : IsFormed form word) :
    Scope.safeForm (String.ofList (guarded word) ++ "_") form =
      String.ofList (guarded word) := by
  have hlist : (String.ofList (guarded word) ++ "_").toList = guarded word ++ ['_'] := by
    rw [String.toList_append, String.toList_ofList]
    rfl
  apply h.safeForm_eq
  · rw [hlist]
    exact List.forall_mem_append.mpr ⟨isWordChar_of_mem_guarded h.chars,
      List.forall_mem_singleton.mpr rfl⟩
  · rw [hlist, trimUnderscores_append_underscore, trimUnderscores_guarded, h.trimUnderscores_eq]

end IsFormed

namespace Scope

variable {s : Scope}

/-! ### A cleared scope -/

theorem clear_perform (s : Scope) (call : Call) : (s.perform call).2.clear = s.clear := by
  cases call with
  | ask q =>
    have hextends := s.extends_sanitize q.name q.form q.suffix
    show (s.sanitize q.name q.form q.suffix).2.clear = s.clear
    rw [clear, hextends.keywords, hextends.builtins, clear]
  | reserve name => rfl
  | clear => rfl

/-- **Clearing leaves nothing of the calls before it.** -/
theorem clear_after (calls : List Call) : ∀ s : Scope, (s.after calls).clear = s.clear := by
  induction calls with
  | nil => exact fun _ => rfl
  | cons call rest ih => exact fun s => (ih (s.perform call).2).trans (s.clear_perform call)

/-- In a cleared scope a name needs no number. -/
theorem sanitize_clear (s : Scope) (name : String) (form : LetterCase) (suffix : String) :
    (s.clear.sanitize name form suffix).1 = s.base (safeForm name form) suffix :=
  s.clear.resolve_of_not_mem List.not_mem_nil

/-! ### Names that stay -/

/-- A name that needs nothing done to it: a word in the form, after an underscore if it starts with
a digit, and before one if it would be a word of the scope without. -/
inductive Finished (s : Scope) (form : LetterCase) : String → Prop
  | free {word : List Char} : IsFormed form word →
    String.ofList (guarded word) ∉ s.keywords → String.ofList (guarded word) ∉ s.builtins →
    Finished s form (String.ofList (guarded word))
  | suffixed {word : List Char} : IsFormed form word →
    String.ofList (guarded word) ∈ s.keywords ∨ String.ofList (guarded word) ∈ s.builtins →
    Finished s form (String.ofList (guarded word) ++ "_")

/-- **What a cleared scope gives is finished.** -/
theorem finished_base (s : Scope) (name : String) (form : LetterCase) :
    s.Finished form (s.base (safeForm name form) "_") := by
  have hword : IsFormed form (wordForm name.toList form) := isFormed_wordForm name.toList form
  rw [safeForm_eq_guarded, base]
  split
  · next hknown => exact .suffixed hword hknown
  · next hfree =>
    obtain ⟨hkeyword, hbuiltin⟩ := not_or.mp hfree
    exact .free hword hkeyword hbuiltin

/-- **A finished name is given again.** -/
theorem Finished.base_eq (h : s.Finished form name) : s.base (safeForm name form) "_" = name := by
  cases h with
  | free hword hkeyword hbuiltin =>
    rw [hword.safeForm_guarded]
    exact if_neg (not_or.mpr ⟨hkeyword, hbuiltin⟩)
  | suffixed hword hknown =>
    rw [hword.safeForm_suffixed]
    exact if_pos hknown

end Scope
end Naming
end TrackingPlan
