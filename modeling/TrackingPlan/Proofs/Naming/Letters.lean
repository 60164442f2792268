import Mathlib
import TrackingPlan.Proofs.Naming.Namespace

/-!
# The letters of words

The steps to a snake-case form put underscores in and take them out, and change the case of
letters; what is left of a word without its underscores they keep, in lower case. So the form of a
word is never empty, and every name that a scope gives is a word of ASCII letters, digits and
underscores that does not start with a digit, whatever characters it was asked for with.

Key definitions: `letters`, `IsWord`, `guarded`.
Key theorems: `letters_snakeWord`, `Scope.isWord_safeForm`, `Scope.isWord_resolve`.
-/

namespace TrackingPlan
namespace Naming

/-- The word without its underscores. -/
def letters (s : List Char) : List Char := s.filter (· ≠ '_')

/-- ASCII letters, digits and underscores, at least one, and the first of them is no digit. -/
def IsWord : List Char → Prop
  | [] => False
  | c :: rest => (c.isAlpha ∨ c = '_') ∧ ∀ d ∈ rest, isWordChar d

/-! ### What the steps keep -/

@[simp]
theorem letters_underscore (s : List Char) : letters ('_' :: s) = letters s := rfl

theorem letters_cons {c : Char} (hc : c ≠ '_') (s : List Char) :
    letters (c :: s) = c :: letters s := List.filter_cons_of_pos (decide_eq_true hc)

theorem letters_cons_congr (c : Char) {s t : List Char} (h : letters s = letters t) :
    letters (c :: s) = letters (c :: t) := by
  by_cases hc : c = '_'
  · rw [hc, letters_underscore, letters_underscore, h]
  · rw [letters_cons hc, letters_cons hc, h]

theorem mem_letters {c : Char} {s : List Char} : c ∈ letters s ↔ c ∈ s ∧ c ≠ '_' := by
  rw [letters, List.mem_filter, decide_eq_true_eq]

theorem letters_splitRuns (s : List Char) : letters (splitRuns s) = letters s := by
  fun_induction splitRuns s with
  | case1 a b c rest hsplit ih =>
    exact letters_cons_congr a ((letters_underscore _).trans ih)
  | case2 a b c rest hsplit ih => exact letters_cons_congr a ih
  | case3 s hshort => rfl

theorem letters_splitHumps (s : List Char) : letters (splitHumps s) = letters s := by
  fun_induction splitHumps s with
  | case1 a b rest hsplit ih =>
    exact letters_cons_congr a ((letters_underscore _).trans ih)
  | case2 a b rest hsplit ih => exact letters_cons_congr a ih
  | case3 s hshort => rfl

theorem letters_collapseUnderscores (s : List Char) :
    letters (collapseUnderscores s) = letters s := by
  fun_induction collapseUnderscores s with
  | case1 a b rest hboth ih => rw [ih, hboth.1, letters_underscore]
  | case2 a b rest hboth ih => exact letters_cons_congr a ih
  | case3 s hshort => rfl

theorem letters_dropWhile (s : List Char) : letters (s.dropWhile (· = '_')) = letters s := by
  induction s with
  | nil => rfl
  | cons c s ih =>
    by_cases hc : c = '_'
    · rw [hc, letters_underscore, ← ih]
      rfl
    · rw [List.dropWhile_cons_of_neg (by simpa using hc)]

theorem letters_reverse (s : List Char) : letters s.reverse = (letters s).reverse :=
  List.filter_reverse

theorem letters_trimUnderscores (s : List Char) : letters (trimUnderscores s) = letters s := by
  rw [trimUnderscores, letters_reverse, letters_dropWhile, letters_reverse, letters_dropWhile,
    List.reverse_reverse]

theorem toLower_ne_underscore {c : Char} (hc : c ≠ '_') : c.toLower ≠ '_' := by
  intro hlower
  by_cases hupper : c.isUpper
  · have hsmall : c.toLower.isLower := by
      rw [Char.isLower_toLower_eq_isAlpha, Char.isAlpha, hupper]
      rfl
    rw [hlower] at hsmall
    exact absurd hsmall (by decide)
  · rw [Char.toLower_eq_of_not_isUpper hupper] at hlower
    exact hc hlower

theorem letters_map_toLower (s : List Char) :
    letters (s.map Char.toLower) = (letters s).map Char.toLower := by
  induction s with
  | nil => rfl
  | cons c s ih =>
    by_cases hc : c = '_'
    · rw [hc, List.map_cons, letters_underscore, ← ih]
      rfl
    · rw [List.map_cons, letters_cons hc, letters_cons (toLower_ne_underscore hc), ih,
        List.map_cons]

/-- **A snake-case form has the letters of its word**, in their order and in lower case. -/
theorem letters_snakeWord (s : List Char) :
    letters (snakeWord s) = (letters s).map Char.toLower := by
  rw [snakeWord, letters_trimUnderscores, letters_collapseUnderscores, letters_map_toLower,
    letters_splitHumps, letters_splitRuns]

/-! ### The characters of forms -/

theorem isWordChar_toLower {c : Char} (h : isWordChar c) : isWordChar c.toLower := by
  by_cases hupper : c.isUpper
  · have hletter : c.toLower.isAlpha := by
      rw [Char.isAlpha_toLower_eq_isAlpha, Char.isAlpha, hupper]
      rfl
    rw [isWordChar, Char.isAlphanum, hletter]
    rfl
  · rwa [Char.toLower_eq_of_not_isUpper hupper]

theorem isWordChar_of_mem_snakeWord {s : List Char} (hs : ∀ c ∈ s, isWordChar c) :
    ∀ c ∈ snakeWord s, isWordChar c := by
  intro c hc
  by_cases hunderscore : c = '_'
  · rw [hunderscore]
    rfl
  · have hletter : c ∈ letters (snakeWord s) := mem_letters.mpr ⟨hc, hunderscore⟩
    rw [letters_snakeWord, List.mem_map] at hletter
    obtain ⟨d, hd, rfl⟩ := hletter
    exact isWordChar_toLower (hs d (mem_letters.mp hd).1)

/-- The name with an underscore for every character that no word has. -/
def masked (s : List Char) : List Char := s.map fun c => if isWordChar c then c else '_'

theorem isWordChar_of_mem_masked {c : Char} {s : List Char} (h : c ∈ masked s) : isWordChar c := by
  obtain ⟨d, -, rfl⟩ := List.mem_map.mp h
  by_cases hd : isWordChar d
  · rwa [if_pos hd]
  · rw [if_neg hd]
    rfl

/-- A plain word is what trimming leaves of a name, or the word for nothing. -/
theorem plainWord_cases (s : List Char) : plainWord s = ['f', 'i', 'e', 'l', 'd'] ∨
    trimUnderscores (masked s) ≠ [] ∧ plainWord s = trimUnderscores (masked s) := by
  by_cases hempty : (trimUnderscores (masked s)).isEmpty
  · exact Or.inl (if_pos hempty)
  · exact Or.inr ⟨fun hnil => hempty (List.isEmpty_iff.mpr hnil), if_neg hempty⟩

/-- Of characters of words only the underscores at the ends are taken away. -/
theorem plainWord_of_chars {s : List Char} (hs : ∀ c ∈ s, isWordChar c)
    (hne : trimUnderscores s ≠ []) : plainWord s = trimUnderscores s := by
  have hmasked : masked s = s :=
    (List.map_congr_left fun c hc => if_pos (hs c hc)).trans (List.map_id' s)
  show (if (trimUnderscores (masked s)).isEmpty then _ else trimUnderscores (masked s)) = _
  rw [hmasked, if_neg fun hempty => hne (List.isEmpty_iff.mp hempty)]

theorem isWordChar_of_mem_plainWord {s : List Char} : ∀ c ∈ plainWord s, isWordChar c := by
  rcases plainWord_cases s with hfield | ⟨-, hword⟩
  · rw [hfield]
    exact List.all_eq_true.mp rfl
  · rw [hword]
    exact fun c hc => isWordChar_of_mem_masked (mem_of_mem_trimUnderscores hc)

/-- Of a text without letters trimming leaves nothing. -/
theorem trimUnderscores_eq_nil {s : List Char} (h : letters s = []) : trimUnderscores s = [] := by
  have hall : s.dropWhile (· = '_') = [] := List.dropWhile_eq_nil_iff.mpr fun c hc => by
    by_contra hother
    have hletter : c ∈ letters s := mem_letters.mpr ⟨hc, by simpa using hother⟩
    exact List.not_mem_nil (h ▸ hletter)
  rw [trimUnderscores, hall]
  rfl

theorem letters_plainWord_ne_nil (s : List Char) : letters (plainWord s) ≠ [] := by
  rcases plainWord_cases s with hfield | ⟨hne, hword⟩
  · rw [hfield]
    decide
  · rw [hword, letters_trimUnderscores]
    exact fun hnone => hne (trimUnderscores_eq_nil hnone)

/-! ### Safe forms -/

theorem ne_nil_of_letters {s : List Char} (h : letters s ≠ []) : s ≠ [] := fun hnil => by
  rw [hnil] at h
  exact h rfl

/-- The form of a name before its first character is looked at. -/
def wordForm (name : List Char) : LetterCase → List Char
  | .snake => snakeWord (plainWord name)
  | .preserve => plainWord name

theorem isWordChar_of_mem_wordForm (name : List Char) (form : LetterCase) :
    ∀ c ∈ wordForm name form, isWordChar c := by
  cases form with
  | snake => exact isWordChar_of_mem_snakeWord isWordChar_of_mem_plainWord
  | preserve => exact isWordChar_of_mem_plainWord

theorem wordForm_ne_nil (name : List Char) (form : LetterCase) : wordForm name form ≠ [] := by
  cases form with
  | preserve => exact ne_nil_of_letters (letters_plainWord_ne_nil name)
  | snake =>
    apply ne_nil_of_letters
    rw [wordForm, letters_snakeWord, ne_eq, List.map_eq_nil_iff]
    exact letters_plainWord_ne_nil name

/-- The word with an underscore before it when it starts with a digit. -/
def guarded : List Char → List Char
  | c :: rest => if c.isDigit then '_' :: c :: rest else c :: rest
  | [] => []

theorem guarded_cases (s : List Char) : guarded s = s ∨ guarded s = '_' :: s := by
  cases s with
  | nil => exact Or.inl rfl
  | cons c rest =>
    by_cases hdigit : c.isDigit
    · exact Or.inr (if_pos hdigit)
    · exact Or.inl (if_neg hdigit)

theorem Scope.safeForm_eq_guarded (name : String) (form : LetterCase) :
    safeForm name form = String.ofList (guarded (wordForm name.toList form)) := by
  obtain ⟨c, rest, hform⟩ := List.exists_cons_of_ne_nil (wordForm_ne_nil name.toList form)
  rw [hform, guarded]
  unfold safeForm
  cases form with
  | snake =>
    have hsnake : snakeWord (plainWord name.toList) = c :: rest := hform
    simp only [hsnake]
  | preserve =>
    have hplain : plainWord name.toList = c :: rest := hform
    simp only [hplain]

/-- Characters of words make a word when they are guarded. -/
theorem isWord_guarded {s : List Char} (hne : s ≠ []) (hs : ∀ c ∈ s, isWordChar c) :
    IsWord (guarded s) := by
  obtain ⟨c, rest, rfl⟩ := List.exists_cons_of_ne_nil hne
  by_cases hdigit : c.isDigit
  · rw [guarded, if_pos hdigit]
    exact ⟨Or.inr rfl, hs⟩
  · rw [guarded, if_neg hdigit]
    have hc : isWordChar c := hs c List.mem_cons_self
    rw [isWordChar, Char.isAlphanum, Bool.or_eq_true, Bool.or_eq_true, decide_eq_true_eq] at hc
    refine ⟨?_, fun d hd => hs d (List.mem_cons_of_mem c hd)⟩
    rcases hc with (hletter | hdigit') | hunderscore
    · exact Or.inl hletter
    · exact absurd hdigit' hdigit
    · exact Or.inr hunderscore

theorem Scope.isWord_safeForm (name : String) (form : LetterCase) :
    IsWord (safeForm name form).toList := by
  rw [safeForm_eq_guarded, String.toList_ofList]
  exact isWord_guarded (wordForm_ne_nil name.toList form)
    (isWordChar_of_mem_wordForm name.toList form)

theorem IsWord.append : ∀ {s t : List Char}, IsWord s → (∀ c ∈ t, isWordChar c) → IsWord (s ++ t)
  | _ :: _, _, h, ht => ⟨h.1, fun d hd => (List.mem_append.mp hd).elim (h.2 d) (ht d)⟩

/-- **A new answer is a word**, with its suffix and its number. -/
theorem Scope.isWord_resolve (s : Scope) (name : String) (form : LetterCase) :
    IsWord (s.resolve (safeForm name form) "_").toList := by
  have hform := isWord_safeForm name form
  rcases s.resolve_eq_append (safeForm name form) with ⟨hsame, -, -⟩ | ⟨tail, hlonger, -, hchars⟩
  · rwa [hsame]
  · rw [hlonger, String.toList_append]
    refine hform.append fun c hc => ?_
    rcases hchars c hc with rfl | hdigit
    · rfl
    · rw [isWordChar, Char.isAlphanum, hdigit, Bool.or_true]
      rfl

end Naming
end TrackingPlan
