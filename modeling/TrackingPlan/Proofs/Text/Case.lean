import Mathlib.Data.List.Basic
import TrackingPlan.Text.Case

/-!
# What case mappings give

The images of the lower case mapping are left alone by it, so a text that is in lower case stays as
it is. The same holds of the images of the upper case mapping, also where one character becomes
several. That no image is mapped again is seen from the tables, one image after another; for that
the ranges of a table are taken together as the bits of one number. No character of an upper case
form is a small letter of ASCII.

Key definitions: `CaseRun.images`, `isSpared`, `IsSmall`, `capitalRuns`, `isCapital`,
`startsSmall`.
Key theorems: `lower_lower`, `upperChar_cases`, `isLower_of_mem_upper`,
`not_startsSmall_capitalize`, `upperChar_of_mem_upperChar`, `capitalize_flatMap_capitalize`.
-/

namespace TrackingPlan
namespace Text

/-! ### Runs -/

variable {runs : List CaseRun} {table : List (Nat × List Nat)} {r q : CaseRun} {n m : Nat}

theorem CaseRun.imageAt?_eq_some : r.imageAt? n = some m ↔
    r.first ≤ n ∧ n ≤ r.last ∧ (n - r.first) % r.step = 0 ∧ m = r.image + (n - r.first) := by
  unfold imageAt?
  split
  · rename_i h
    simp [h, eq_comm]
  · rename_i h
    simp only [reduceCtorEq, false_iff]
    exact fun h' => h ⟨h'.1, h'.2.1, h'.2.2.1⟩

/-- The images of the code points of the run. -/
def CaseRun.images (r : CaseRun) : List Nat :=
  ((List.range (r.last - r.first + 1)).filter fun k => k % r.step == 0).map (r.image + ·)

theorem CaseRun.mem_images (himage : r.imageAt? n = some m) : m ∈ r.images := by
  obtain ⟨hfirst, hlast, hstep, rfl⟩ := imageAt?_eq_some.mp himage
  have hk : n - r.first ∈ List.range (r.last - r.first + 1) := List.mem_range.mpr (by omega)
  exact List.mem_map_of_mem (List.mem_filter.mpr ⟨hk, beq_iff_eq.mpr hstep⟩)

theorem exists_run {runs : List CaseRun} (h : applyRuns runs n = some m) :
    ∃ r ∈ runs, r.imageAt? n = some m :=
  List.exists_of_findSome?_eq_some h

theorem mem_of_lookup {table : List (Nat × List Nat)} {image : List Nat}
    (h : table.lookup n = some image) : (n, image) ∈ table := by
  obtain ⟨before, after, rfl, -⟩ := List.lookup_eq_some_iff.mp h
  exact List.mem_append_right before List.mem_cons_self

/-- Numbers that are no code points stand for the first one. -/
theorem toNat_ofNat (n : Nat) : (Char.ofNat n).toNat = if n.isValidChar then n else 0 := by
  split
  · rename_i h
    rw [Char.ofNat, dif_pos h]
    rfl
  · rename_i h
    rw [Char.ofNat, dif_neg h]
    rfl

/-! ### Code points without an image -/

/-- The number whose bits are set at the places in the ranges. -/
def bits (ranges : List (Nat × Nat)) : Nat :=
  ranges.foldr (fun r rest => ((1 <<< (r.2 + 1 - r.1)) - 1) <<< r.1 ||| rest) 0

theorem testBit_bits (ranges : List (Nat × Nat)) (n : Nat) :
    (bits ranges).testBit n = inRanges ranges n := by
  induction ranges with
  | nil => exact Nat.zero_testBit n
  | cons r ranges ih =>
    have hrange : (((1 <<< (r.2 + 1 - r.1)) - 1) <<< r.1).testBit n =
        (decide (r.1 ≤ n) && decide (n ≤ r.2)) := by
      rw [Nat.one_shiftLeft, Nat.testBit_shiftLeft, Nat.testBit_two_pow_sub_one, Bool.eq_iff_iff]
      simp only [Bool.and_eq_true, decide_eq_true_eq]
      omega
    rw [inRanges, List.any_cons, ← hrange]
    exact (Nat.testBit_or _ _ n).trans (congrArg _ ih)

/-- The ranges of the runs that may hold code points of the parity. -/
def spans (parity : Nat) (runs : List CaseRun) : List (Nat × Nat) :=
  (runs.filter fun q => q.step != 2 || q.first % 2 == parity).map fun q => (q.first, q.last)

theorem mem_spans (hq : q ∈ runs) (himage : q.imageAt? n = some m) :
    inRanges (spans (n % 2) runs) n = true := by
  obtain ⟨hfirst, hlast, hstep, -⟩ := CaseRun.imageAt?_eq_some.mp himage
  have hparity : (q.step != 2 || q.first % 2 == n % 2) = true := by
    simp only [Bool.or_eq_true, bne_iff_ne, beq_iff_eq]
    by_cases htwo : q.step = 2
    · rw [htwo] at hstep
      exact .inr (by omega)
    · exact .inl htwo
  refine List.any_eq_true.mpr ⟨(q.first, q.last), ?_, by simp [hfirst, hlast]⟩
  exact List.mem_map_of_mem (List.mem_filter.mpr ⟨hq, hparity⟩)

/-- No run holds the code point. Of the runs of every second one only the parity is looked at. -/
def isSpared (runs : List CaseRun) (n : Nat) : Bool :=
  !bif Nat.beq (n % 2) 0 then (bits (spans 0 runs)).testBit n
    else (bits (spans 1 runs)).testBit n

theorem isSpared_eq (runs : List CaseRun) (n : Nat) :
    isSpared runs n = !inRanges (spans (n % 2) runs) n := by
  have hparity : n % 2 = 0 ∨ n % 2 = 1 := by omega
  unfold isSpared
  rcases hparity with heven | hodd
  · rw [heven, ← testBit_bits]
    rfl
  · rw [hodd, ← testBit_bits]
    rfl

theorem imageAt?_of_isSpared (h : isSpared runs n) (hq : q ∈ runs) : q.imageAt? n = none := by
  rw [isSpared_eq, Bool.not_eq_true'] at h
  refine Option.eq_none_iff_forall_ne_some.mpr fun m himage => ?_
  rw [mem_spans hq himage] at h
  exact nomatch h

/-- The runs, and one for each code point with an image in the table. -/
def heldBy (runs : List CaseRun) (table : List (Nat × List Nat)) : List CaseRun :=
  runs ++ table.map fun p => ⟨p.1, p.1, 1, 0⟩

theorem not_mem_of_isSpared (h : isSpared (heldBy runs table) n) {p : Nat × List Nat}
    (hp : p ∈ table) : p.1 ≠ n := by
  rintro rfl
  have hmem : (⟨p.1, p.1, 1, 0⟩ : CaseRun) ∈ heldBy runs table :=
    List.mem_append_right _ (List.mem_map_of_mem hp)
  have hfree := imageAt?_of_isSpared h hmem
  simp [CaseRun.imageAt?] at hfree

/-! ### Lower case -/

/-- The images of the runs are no capitals where they are in ASCII, and have no images elsewhere. -/
theorem lowerRuns_images : lowerRuns.all (fun r => r.images.all fun m =>
    bif Nat.blt m 0x80 then (Char.ofNat m).toLower == Char.ofNat m
      else isSpared (heldBy lowerRuns lowerLong) m) := by
  decide +kernel

/-- A character that lower case leaves alone wherever it stands. -/
structure IsSmall (c : Char) : Prop where
  ne_sigma : c ≠ 'Σ'
  lowerChar_eq : lowerChar c = [c]

instance (c : Char) : Decidable (IsSmall c) :=
  decidable_of_iff (c ≠ 'Σ' ∧ lowerChar c = [c]) ⟨fun h => ⟨h.1, h.2⟩, fun h => ⟨h.1, h.2⟩⟩

theorem isSmall_ascii : ∀ n < 0x80, IsSmall (Char.ofNat n).toLower := by decide +kernel

/-- The small sigmas and the images that have several characters are left alone. -/
theorem isSmall_listed :
    ∀ n ∈ 0x3C2 :: 0x3C3 :: lowerLong.flatMap (·.2), IsSmall (Char.ofNat n) := by
  decide +kernel

/-- A code point beyond ASCII without an image is left alone. -/
theorem isSmall_of_isSpared (h : 0x80 ≤ n) (hspared : isSpared (heldBy lowerRuns lowerLong) n) :
    IsSmall (Char.ofNat n) := by
  have hlong : lowerLong.lookup n = none := List.lookup_eq_none_iff.mpr fun p hp =>
    bne_iff_ne.mpr (not_mem_of_isSpared hspared hp).symm
  have hruns : applyRuns lowerRuns n = none := List.findSome?_eq_none_iff.mpr fun q hq =>
    imageAt?_of_isSpared hspared (List.mem_append_left _ hq)
  by_cases hvalid : n.isValidChar
  · have htoNat : (Char.ofNat n).toNat = n := by rw [toNat_ofNat, if_pos hvalid]
    refine ⟨fun hsigma => ?_, ?_⟩
    · have hn : n = 0x3A3 := by rw [← htoNat, hsigma]; rfl
      rw [hn] at hruns
      exact absurd hruns (by decide +kernel)
    · rw [lowerChar, htoNat, if_neg (Nat.not_lt.mpr h), hlong, hruns]
  · have hzero : Char.ofNat n = Char.ofNat 0 := by
      rw [← Char.ofNat_toNat (Char.ofNat n), toNat_ofNat, if_neg hvalid]
    exact hzero ▸ isSmall_ascii 0 (by decide)

/-- The image of a code point under the runs of the table is left alone. -/
theorem isSmall_of_applyRuns (h : applyRuns lowerRuns n = some m) : IsSmall (Char.ofNat m) := by
  obtain ⟨r, hr, himage⟩ := exists_run h
  have hfacts := List.all_eq_true.mp (List.all_eq_true.mp lowerRuns_images r hr) m
    (CaseRun.mem_images himage)
  by_cases hascii : m < 0x80
  · rw [Nat.blt_eq.mpr hascii, cond_true, beq_iff_eq] at hfacts
    exact hfacts ▸ isSmall_ascii m hascii
  · rw [Bool.eq_false_iff.mpr (mt Nat.blt_eq.mp hascii), cond_false] at hfacts
    exact isSmall_of_isSpared (Nat.not_lt.mp hascii) hfacts

/-- **Every image of the lower case mapping is left alone by it.** -/
theorem isSmall_of_mem_lowerChar {c d : Char} (hc : c ≠ 'Σ') (hd : d ∈ lowerChar c) :
    IsSmall d := by
  have hsame : lowerChar c = [c] → IsSmall d := fun h => by
    rw [h, List.mem_singleton] at hd
    exact hd ▸ ⟨hc, h⟩
  unfold lowerChar at hd hsame
  split at hd
  · rename_i hascii
    rw [List.mem_singleton.mp hd, ← Char.ofNat_toNat c]
    exact isSmall_ascii c.toNat hascii
  · rename_i hascii
    rw [if_neg hascii] at hsame
    split at hd
    · rename_i image hlong
      obtain ⟨m, hm, rfl⟩ := List.mem_map.mp hd
      have hlisted : m ∈ lowerLong.flatMap (·.2) :=
        List.mem_flatMap.mpr ⟨_, mem_of_lookup hlong, hm⟩
      exact isSmall_listed m (List.mem_cons_of_mem _ (List.mem_cons_of_mem _ hlisted))
    · split at hd
      · rename_i image hrun
        rw [List.mem_singleton.mp hd]
        exact isSmall_of_applyRuns hrun
      · rename_i hlong _ hrun
        rw [hlong, hrun] at hsame
        exact hsame rfl

theorem isSmall_of_mem_lowerAfter : ∀ {before s : List Char} {d : Char}, d ∈ lowerAfter before s →
    IsSmall d
  | _, [], _, hd => absurd hd List.not_mem_nil
  | before, c :: rest, d, hd => by
    rw [lowerAfter] at hd
    rcases List.mem_append.mp hd with hfirst | hrest
    · split at hfirst
      · split at hfirst
        · exact List.mem_singleton.mp hfirst ▸ isSmall_listed 0x3C2 List.mem_cons_self
        · exact List.mem_singleton.mp hfirst ▸
            isSmall_listed 0x3C3 (List.mem_cons_of_mem _ List.mem_cons_self)
      · rename_i hc
        exact isSmall_of_mem_lowerChar hc hfirst
    · exact isSmall_of_mem_lowerAfter hrest

theorem lowerAfter_of_isSmall : ∀ (before : List Char) {s : List Char}, (∀ c ∈ s, IsSmall c) →
    lowerAfter before s = s
  | _, [], _ => rfl
  | before, c :: rest, h => by
    have hc := h c List.mem_cons_self
    have hrest := lowerAfter_of_isSmall (c :: before) fun d hd => h d (List.mem_cons_of_mem c hd)
    rw [lowerAfter, if_neg hc.ne_sigma, hc.lowerChar_eq, hrest]
    rfl

/-- **A text in lower case stays as it is.** -/
theorem lower_lower (s : List Char) : lower (lower s) = lower s :=
  lowerAfter_of_isSmall [] fun _ hc => isSmall_of_mem_lowerAfter hc

theorem lowercase_lowercase (s : String) : lowercase (lowercase s) = lowercase s := by
  rw [lowercase, lowercase, String.toList_ofList, lower_lower]

/-! ### Upper case -/

/-- The runs of the upper case mapping, that of ASCII first. -/
def capitalRuns : List CaseRun := ⟨0x61, 0x7A, 1, 0x41⟩ :: upperRuns

theorem toUpper_ascii : ∀ n < 0x80,
    (CaseRun.imageAt? ⟨0x61, 0x7A, 1, 0x41⟩ n).map Char.ofNat = some (Char.ofNat n).toUpper ∨
      (Char.ofNat n).toUpper = Char.ofNat n ∧ (Char.ofNat n).isLower = false := by
  decide +kernel

theorem isLower_eq_false {c : Char} (h : c.toNat < 0x61 ∨ 0x7A < c.toNat) : c.isLower = false := by
  have ha : 'a'.val.toNat = 0x61 := rfl
  have hz : 'z'.val.toNat = 0x7A := rfl
  have hc : c.val.toNat = c.toNat := rfl
  delta Char.isLower
  simp only [ge_iff_le, UInt32.le_iff_toNat_le, Bool.and_eq_false_iff, decide_eq_false_iff_not]
  omega

/-- The upper case form of a character has several characters, or one that a run gives, or it is
the character itself, which is then no small letter of ASCII. -/
theorem upperChar_cases (c : Char) :
    (∃ image, (c.toNat, image) ∈ upperLong ∧ upperChar c = image.map Char.ofNat) ∨
    (∃ r ∈ capitalRuns, ∃ m, r.imageAt? c.toNat = some m ∧ upperChar c = [Char.ofNat m]) ∨
    (upperChar c = [c] ∧ c.isLower = false) := by
  unfold upperChar
  split
  · rename_i hascii
    right
    rcases toUpper_ascii c.toNat hascii with hmapped | ⟨hsame, hsmall⟩
    · obtain ⟨m, hm, himage⟩ := Option.map_eq_some_iff.mp hmapped
      rw [Char.ofNat_toNat] at himage
      exact .inl ⟨_, List.mem_cons_self, m, hm, by rw [himage]⟩
    · rw [Char.ofNat_toNat] at hsame hsmall
      exact .inr ⟨by rw [hsame], hsmall⟩
  · rename_i hascii
    split
    · rename_i image hlong
      exact .inl ⟨image, mem_of_lookup hlong, rfl⟩
    · right
      split
      · rename_i m hrun
        obtain ⟨r, hr, himage⟩ := exists_run hrun
        exact .inl ⟨r, List.mem_cons_of_mem _ hr, m, himage, rfl⟩
      · exact .inr ⟨rfl, isLower_eq_false (by omega)⟩

/-- What an image is in upper case: a code point without an image, of a character that is neither a
small letter of ASCII nor a separator. -/
def isCapital (m : Nat) : Bool :=
  (Nat.blt m 0xD800 || Nat.blt 0xDFFF m && Nat.blt m 0x110000) &&
    (Nat.blt m 0x61 || Nat.blt 0x7A m) && !Nat.beq m 0x20 && !Nat.beq m 0x5F &&
    isSpared (heldBy capitalRuns upperLong) m

theorem capitalRuns_images : capitalRuns.all (·.images.all isCapital) := by
  decide +kernel

theorem upperLong_images : upperLong.all (fun p => !p.2.isEmpty && p.2.all isCapital) := by
  decide +kernel

theorem isCapital_of_imageAt? (hr : r ∈ capitalRuns) (himage : r.imageAt? n = some m) :
    isCapital m :=
  List.all_eq_true.mp (List.all_eq_true.mp capitalRuns_images r hr) m (CaseRun.mem_images himage)

theorem isCapital_of_mem_upperLong {image : List Nat} (h : (n, image) ∈ upperLong) :
    image ≠ [] ∧ ∀ m ∈ image, isCapital m := by
  have hfacts := List.all_eq_true.mp upperLong_images _ h
  simpa only [Bool.and_eq_true, Bool.not_eq_true', List.isEmpty_eq_false_iff,
    List.all_eq_true] using hfacts

theorem isCapital_iff : isCapital m ↔
    ((m < 0xD800 ∨ 0xDFFF < m ∧ m < 0x110000) ∧ (m < 0x61 ∨ 0x7A < m) ∧ m ≠ 0x20 ∧ m ≠ 0x5F) ∧
      isSpared (heldBy capitalRuns upperLong) m := by
  simp only [isCapital, Bool.and_eq_true, Bool.or_eq_true, Nat.blt_eq, Bool.not_eq_true',
    ← Bool.not_eq_true, Nat.beq_eq, and_assoc, ne_eq]

theorem toNat_of_isCapital (h : isCapital m) : (Char.ofNat m).toNat = m := by
  rw [toNat_ofNat, if_pos (isCapital_iff.mp h).1.1]

/-- A character of an upper case form is an image, or else it is the whole form. -/
theorem mem_upperChar_cases {c d : Char} (hd : d ∈ upperChar c) :
    (∃ m, isCapital m ∧ d = Char.ofNat m) ∨ (d = c ∧ upperChar c = [c] ∧ c.isLower = false) := by
  rcases upperChar_cases c with ⟨image, hlong, hupper⟩ | ⟨r, hr, m, himage, hupper⟩ |
    ⟨hupper, hsmall⟩
  · rw [hupper] at hd
    obtain ⟨m, hm, rfl⟩ := List.mem_map.mp hd
    exact .inl ⟨m, (isCapital_of_mem_upperLong hlong).2 m hm, rfl⟩
  · rw [hupper] at hd
    exact .inl ⟨m, isCapital_of_imageAt? hr himage, List.mem_singleton.mp hd⟩
  · rw [hupper] at hd
    exact .inr ⟨List.mem_singleton.mp hd, hupper, hsmall⟩

theorem upperChar_ne_nil (c : Char) : upperChar c ≠ [] := by
  rcases upperChar_cases c with ⟨image, hlong, hupper⟩ | ⟨r, -, m, -, hupper⟩ | ⟨hupper, -⟩
  · rw [hupper]
    simpa using (isCapital_of_mem_upperLong hlong).1
  · exact hupper ▸ List.cons_ne_nil _ _
  · exact hupper ▸ List.cons_ne_nil _ _

/-- **An upper case form has no small letter of ASCII.** -/
theorem isLower_of_mem_upperChar {c d : Char} (hd : d ∈ upperChar c) : d.isLower = false := by
  rcases mem_upperChar_cases hd with ⟨m, hm, rfl⟩ | ⟨rfl, -, hsmall⟩
  · refine isLower_eq_false ?_
    rw [toNat_of_isCapital hm]
    exact (isCapital_iff.mp hm).1.2.1
  · exact hsmall

theorem isLower_of_mem_upper {s : List Char} {d : Char} (hd : d ∈ upper s) :
    d.isLower = false := by
  obtain ⟨c, -, hc⟩ := List.mem_flatMap.mp hd
  exact isLower_of_mem_upperChar hc

/-- Does the text start with a small letter of ASCII? -/
def startsSmall (s : List Char) : Bool := s.head?.any Char.isLower

/-- Capitalized parts make a text that starts with no small letter, whatever parts are empty. -/
theorem not_startsSmall_capitalize : ∀ parts : List (List Char),
    startsSmall (parts.flatMap capitalize) = false
  | [] => rfl
  | [] :: parts => not_startsSmall_capitalize parts
  | (c :: part) :: parts => by
    obtain ⟨d, rest, hupper⟩ := List.exists_cons_of_ne_nil (upperChar_ne_nil c)
    rw [List.flatMap_cons, capitalize, hupper]
    exact isLower_of_mem_upperChar (hupper ▸ List.mem_cons_self)

/-! ### Upper case is left alone -/

/-- **Every character of an upper case form is left alone by the upper case mapping.** -/
theorem upperChar_of_mem_upperChar {c d : Char} (hd : d ∈ upperChar c) : upperChar d = [d] := by
  rcases mem_upperChar_cases hd with ⟨m, hm, rfl⟩ | ⟨rfl, hsame, -⟩
  · have hspared := (isCapital_iff.mp hm).2
    rcases upperChar_cases (Char.ofNat m) with ⟨image, hlong, -⟩ | ⟨q, hq, k, himage, -⟩ |
      ⟨hsame, -⟩
    · rw [toNat_of_isCapital hm] at hlong
      exact absurd rfl (not_mem_of_isSpared hspared hlong)
    · rw [toNat_of_isCapital hm,
        imageAt?_of_isSpared hspared (List.mem_append_left _ hq)] at himage
      exact nomatch himage
    · exact hsame
  · exact hsame

/-- Capitalized parts make a capitalized text, whatever parts are empty. -/
theorem capitalize_flatMap_capitalize : ∀ parts : List (List Char),
    capitalize (parts.flatMap capitalize) = parts.flatMap capitalize
  | [] => rfl
  | [] :: parts => capitalize_flatMap_capitalize parts
  | (c :: part) :: parts => by
    obtain ⟨d, rest, hupper⟩ := List.exists_cons_of_ne_nil (upperChar_ne_nil c)
    have hd : upperChar d = [d] := upperChar_of_mem_upperChar (hupper ▸ List.mem_cons_self)
    rw [List.flatMap_cons, capitalize, hupper, List.cons_append, List.cons_append, capitalize, hd]
    rfl

theorem eq_of_separator_mem_upperChar {c x : Char} (hx : x ∈ [' ', '_'])
    (h : x ∈ upperChar c) : c = x := by
  rcases mem_upperChar_cases h with ⟨m, hm, rfl⟩ | ⟨rfl, -, -⟩
  · have hcode : m ∈ [0x20, 0x5F] := by
      rw [← toNat_of_isCapital hm]
      exact List.mem_map_of_mem hx
    obtain ⟨-, -, hblank, hunderscore⟩ := (isCapital_iff.mp hm).1
    simp [hblank, hunderscore] at hcode
  · rfl

/-- Capitalization brings in neither a blank nor an underscore. -/
theorem mem_of_separator_mem_capitalize {s : List Char} {x : Char} (hx : x ∈ [' ', '_'])
    (h : x ∈ capitalize s) : x ∈ s := by
  cases s with
  | nil => exact h
  | cons c rest =>
    rcases List.mem_append.mp h with h | h
    · exact eq_of_separator_mem_upperChar hx h ▸ List.mem_cons_self
    · exact List.mem_cons_of_mem c h

end Text
end TrackingPlan
