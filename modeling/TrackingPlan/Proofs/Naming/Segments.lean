import TrackingPlan.Proofs.Naming.Substitution

/-!
# The segments of a snake-case form

A snake-case form is one or more segments of small letters and digits with single underscores
between them, and it has the letters of its word. The reason is that it is settled: no step of
`snakeWord` finds anything to do in it. So the form of the form is the form itself.

Key definitions: `IsSettled`, `IsSegmented`.
Key theorems: `isSettled_snakeWord`, `IsSettled.snakeWord_eq`, `IsSettled.isSegmented`,
`snakeWord_plainWord`.
-/

namespace TrackingPlan
namespace Naming

/-- The word has small letters and digits, and single underscores that are not at its ends. -/
structure IsSettled (s : List Char) : Prop where
  chars : ∀ c ∈ s, isLow c ∨ c = '_'
  single : s.IsChain fun a b => ¬ (a = '_' ∧ b = '_')
  head : ∀ c ∈ s.head?, c ≠ '_'
  last : ∀ c ∈ s.getLast?, c ≠ '_'

/-- The word is made of one or more segments, each of which has small letters and digits and at
least one of them, with an underscore between any two. -/
def IsSegmented (s : List Char) : Prop :=
  ∃ segments : List (List Char), segments ≠ [] ∧
    (∀ segment ∈ segments, segment ≠ [] ∧ ∀ c ∈ segment, isLow c) ∧
    s = ['_'].intercalate segments

variable {s : List Char} {a b c : Char}

/-! ### What the steps leave -/

theorem trimUnderscores_isPrefix (s : List Char) :
    trimUnderscores s <+: s.dropWhile (· = '_') := by
  have h := List.dropWhile_suffix (l := (s.dropWhile (· = '_')).reverse) (· = '_')
  rwa [← List.reverse_prefix, List.reverse_reverse] at h

theorem isChain_trimUnderscores {R : Char → Char → Prop} (h : s.IsChain R) :
    (trimUnderscores s).IsChain R := by
  have hdropped : (s.dropWhile (· = '_')).IsChain R := h.suffix (List.dropWhile_suffix _)
  obtain ⟨more, hmore⟩ := trimUnderscores_isPrefix s
  rw [← hmore] at hdropped
  exact hdropped.left_of_append

theorem head?_dropWhile_ne (s : List Char) : ∀ c ∈ (s.dropWhile (· = '_')).head?, c ≠ '_' := by
  intro c hc hunderscore
  have h := List.head?_dropWhile_not (fun c : Char => decide (c = '_')) s
  rw [Option.mem_def.mp hc] at h
  exact absurd hunderscore (of_decide_eq_false h)

/-- After trimming no underscore is left at the ends. -/
theorem ends_trimUnderscores (s : List Char) : (∀ c ∈ (trimUnderscores s).head?, c ≠ '_') ∧
    ∀ c ∈ (trimUnderscores s).getLast?, c ≠ '_' := by
  refine ⟨fun c hc => ?_, fun c hc => ?_⟩
  · obtain ⟨rest, htrim⟩ := List.head?_eq_some_iff.mp hc
    obtain ⟨more, hprefix⟩ := trimUnderscores_isPrefix s
    refine head?_dropWhile_ne s c ?_
    rw [← hprefix, htrim]
    rfl
  · rw [trimUnderscores, List.getLast?_reverse] at hc
    exact head?_dropWhile_ne _ c hc

theorem head?_collapseUnderscores (s : List Char) : (collapseUnderscores s).head? = s.head? := by
  fun_induction collapseUnderscores s with
  | case1 a b rest hboth ih => rw [ih, List.head?_cons, List.head?_cons, hboth.1, hboth.2]
  | case2 a b rest hboth ih => rfl
  | case3 s hshort => rfl

/-- After collapsing no two underscores stand together. -/
theorem isChain_collapseUnderscores (s : List Char) :
    (collapseUnderscores s).IsChain fun a b => ¬ (a = '_' ∧ b = '_') := by
  fun_induction collapseUnderscores s with
  | case1 a b rest hboth ih => exact ih
  | case2 a b rest hboth ih =>
    refine List.isChain_cons.mpr ⟨fun c hc => ?_, ih⟩
    rw [head?_collapseUnderscores] at hc
    exact Option.some.inj hc ▸ hboth
  | case3 s hshort =>
    cases s with
    | nil => exact .nil
    | cons a s =>
      cases s with
      | nil => exact .singleton a
      | cons b rest => exact absurd rfl (hshort a b rest)

theorem isLow_or_of_isWordChar (hword : isWordChar c) (hupper : c.isUpper = false) :
    isLow c ∨ c = '_' := by
  simpa [isWordChar, Char.isAlphanum, Char.isAlpha, hupper, isLow] using hword

/-- **A snake-case form is settled.** -/
theorem isSettled_snakeWord (hs : ∀ c ∈ s, isWordChar c) : IsSettled (snakeWord s) where
  chars c hc := isLow_or_of_isWordChar (isWordChar_of_mem_snakeWord hs c hc)
    (isUpper_of_mem_snakeWord hc)
  single := isChain_trimUnderscores (isChain_collapseUnderscores _)
  head := (ends_trimUnderscores _).1
  last := (ends_trimUnderscores _).2

/-! ### Nothing left to do -/

theorem IsSettled.isUpper_eq_false (h : IsSettled s) : ∀ c ∈ s, c.isUpper = false := by
  intro c hc
  rcases h.chars c hc with hlow | rfl
  · exact isUpper_of_isLow hlow
  · rfl

theorem collapseUnderscores_of_isChain (hs : s.IsChain fun a b => ¬ (a = '_' ∧ b = '_')) :
    collapseUnderscores s = s := by
  fun_induction collapseUnderscores s with
  | case1 a b rest hboth ih => exact absurd hboth (List.isChain_cons_cons.mp hs).1
  | case2 a b rest hboth ih => exact congrArg (a :: ·) (ih (List.isChain_cons_cons.mp hs).2)
  | case3 s hshort => rfl

/-- **A settled word is its own snake-case form.** -/
theorem IsSettled.snakeWord_eq (h : IsSettled s) : snakeWord s = s := by
  have hupper := h.isUpper_eq_false
  have hruns : splitRuns s = s := by simpa [splitRuns] using splitRuns_append hupper []
  rw [snakeWord, hruns, splitHumps_of_no_upper hupper, map_toLower_of_no_upper hupper,
    collapseUnderscores_of_isChain h.single, trimUnderscores_of_ends h.head h.last]

/-! ### Segments -/

theorem IsSettled.tail (h : IsSettled (a :: b :: s)) (hb : b ≠ '_') : IsSettled (b :: s) where
  chars c hc := h.chars c (List.mem_cons_of_mem a hc)
  single := (List.isChain_cons_cons.mp h.single).2
  head _ hc := Option.some.inj hc ▸ hb
  last := h.last

/-- After an underscore of a settled word it goes on with a character of another kind. -/
theorem IsSettled.exists_of_underscore (h : IsSettled (a :: '_' :: s)) :
    ∃ b rest, s = b :: rest ∧ IsSettled s := by
  cases s with
  | nil => exact absurd rfl (h.last '_' rfl)
  | cons b rest =>
    have hchain := (List.isChain_cons_cons.mp h.single).2
    have hb : b ≠ '_' := fun hb => (List.isChain_cons_cons.mp hchain).1 ⟨rfl, hb⟩
    exact ⟨b, rest, rfl, fun c hc => h.chars c (List.mem_cons_of_mem a (List.mem_cons_of_mem _ hc)),
      (List.isChain_cons_cons.mp hchain).2, fun c hc => Option.some.inj hc ▸ hb, h.last⟩

/-- A settled word is a segment, with each of the others after an underscore. -/
theorem IsSettled.exists_segments : ∀ {s : List Char}, s ≠ [] → IsSettled s → ∃ p ps,
    (∀ q ∈ p :: ps, q ≠ [] ∧ ∀ c ∈ q, isLow c) ∧ s = p ++ ps.flatMap ('_' :: ·)
  | [], hne, _ => absurd rfl hne
  | [c], _, h => by
    have hc : isLow c := (h.chars c List.mem_cons_self).resolve_right (h.head c rfl)
    exact ⟨[c], [], by simp [hc], rfl⟩
  | c :: d :: s, _, h => by
    have hc : isLow c := (h.chars c List.mem_cons_self).resolve_right (h.head c rfl)
    by_cases hd : d = '_'
    · subst hd
      obtain ⟨b, rest, rfl, hrest⟩ := h.exists_of_underscore
      obtain ⟨p, ps, hall, heq⟩ := exists_segments (List.cons_ne_nil b rest) hrest
      refine ⟨[c], p :: ps, List.forall_mem_cons.mpr ⟨by simp [hc], hall⟩, ?_⟩
      rw [heq]
      rfl
    · obtain ⟨p, ps, hall, heq⟩ := exists_segments (List.cons_ne_nil d s) (h.tail hd)
      obtain ⟨hp, hps⟩ := List.forall_mem_cons.mp hall
      refine ⟨c :: p, ps, List.forall_mem_cons.mpr ⟨⟨List.cons_ne_nil c p, ?_⟩, hps⟩, ?_⟩
      · exact List.forall_mem_cons.mpr ⟨hc, hp.2⟩
      · rw [heq]
        rfl

theorem IsSettled.isSegmented (h : IsSettled s) (hne : s ≠ []) : IsSegmented s := by
  obtain ⟨p, ps, hall, heq⟩ := h.exists_segments hne
  exact ⟨p :: ps, List.cons_ne_nil p ps, hall, heq.trans (intercalate_underscore p ps).symm⟩

/-- **The snake-case form of a name** is what the substitutions make of its plain word. It is one or
more segments joined by single underscores, has the letters of the word in their order and in lower
case, and is its own snake-case form. -/
theorem snakeWord_plainWord (name : String) :
    let word := plainWord name.toList
    let form := snakeWord word
    (∀ spelled, SpelledFrom word spelled ↔ spelled = form) ∧ IsSegmented form ∧
      letters form = letters (word.map Char.toLower) ∧ snakeWord form = form := by
  have hsettled : IsSettled (snakeWord (plainWord name.toList)) :=
    isSettled_snakeWord isWordChar_of_mem_plainWord
  refine ⟨fun _ => spelledFrom_iff, hsettled.isSegmented (wordForm_ne_nil name.toList .snake), ?_,
    hsettled.snakeWord_eq⟩
  rw [letters_snakeWord, letters_map_toLower]

/-- Runs of capitals and of underscores, and digits beside both. -/
example : snakeWord (plainWord "__HTTPCode2FA___x9Y é".toList) = "http_code2_fa_x9_y".toList := by
  decide +kernel

end Naming
end TrackingPlan
