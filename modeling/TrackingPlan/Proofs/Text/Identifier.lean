import TrackingPlan.Proofs.Text.Case
import TrackingPlan.Text.Identifier

/-!
# Identifiers in upper case

Upper case leaves the characters of identifiers what they are: where a character may stand in an
identifier, all of its upper case form may, and where it may not, the form may not either. There is
one exception. The iota subscript is a mark, so no identifier starts with it, but its capital is a
letter. The tables are compared one code point after another.

Key definitions: `CaseRun.keeps`, `spellsIdentifier`.
Key theorems: `CaseRun.inRanges_imageAt`, `all_continuesIdentifier_upperChar`,
`isIdentifier_upperChar`, `isIdentifier_upper`.
-/

namespace TrackingPlan
namespace Text

/-! ### Ranges -/

variable {ranges : List (Nat × Nat)} {r : CaseRun} {n m : Nat} {c : Char}

/-- The code points of the run are in the ranges if and only if their images are. -/
def CaseRun.keeps (r : CaseRun) (ranges : List (Nat × Nat)) : Bool :=
  (List.range (r.last - r.first + 1)).all fun k =>
    k % r.step != 0 || (bits ranges).testBit (r.first + k) == (bits ranges).testBit (r.image + k)

/-- A run that keeps to the ranges maps no code point into them or out of them. -/
theorem CaseRun.inRanges_imageAt (h : r.keeps ranges) (himage : r.imageAt? n = some m) :
    inRanges ranges m = inRanges ranges n := by
  obtain ⟨hfirst, hlast, hstep, rfl⟩ := imageAt?_eq_some.mp himage
  have hk : n - r.first ∈ List.range (r.last - r.first + 1) := List.mem_range.mpr (by omega)
  have hsame := List.all_eq_true.mp h _ hk
  simp only [hstep, bne_self_eq_false, Bool.false_or, beq_iff_eq, testBit_bits] at hsame
  rw [← hsame, Nat.add_sub_cancel' hfirst]

/-! ### The tables -/

theorem capitalRuns_keep_continue : capitalRuns.all (·.keeps identifierContinueRanges) := by
  decide +kernel

/-- All runs but that of the iota subscript keep to the characters that start identifiers. -/
theorem capitalRuns_keep_start : capitalRuns.all (fun r =>
    Nat.beq r.first 0x345 && Nat.beq r.last 0x345 || r.keeps identifierStartRanges) := by
  decide +kernel

/-- Characters whose upper case form is long are letters, and the form is an identifier. -/
theorem upperLong_identifier : upperLong.all (fun p =>
    (bits identifierStartRanges).testBit p.1 && (bits identifierContinueRanges).testBit p.1 &&
      (p.2.head?.any (bits identifierStartRanges).testBit) &&
      p.2.all (bits identifierContinueRanges).testBit) := by
  decide +kernel

theorem upperLong_facts {image : List Nat} (h : (n, image) ∈ upperLong) :
    inRanges identifierStartRanges n = true ∧ inRanges identifierContinueRanges n = true ∧
      ∃ m rest, image = m :: rest ∧ startsIdentifier (Char.ofNat m) = true ∧
        (image.map Char.ofNat).all continuesIdentifier = true := by
  have hfacts := List.all_eq_true.mp upperLong_identifier _ h
  simp only [Bool.and_eq_true, testBit_bits, List.all_eq_true] at hfacts
  obtain ⟨⟨⟨hstart, hcontinue⟩, hhead⟩, hall⟩ := hfacts
  obtain ⟨hne, hcapitals⟩ := isCapital_of_mem_upperLong h
  obtain ⟨m, rest, rfl⟩ := List.exists_cons_of_ne_nil hne
  have htoNat : ∀ k ∈ m :: rest, (Char.ofNat k).toNat = k := fun k hk =>
    toNat_of_isCapital (hcapitals k hk)
  refine ⟨hstart, hcontinue, m, rest, rfl, ?_, ?_⟩
  · rw [startsIdentifier, htoNat m List.mem_cons_self]
    simpa only [List.head?_cons, Option.any_some, testBit_bits] using hhead
  · refine List.all_eq_true.mpr (List.forall_mem_map.mpr fun k hk => ?_)
    rw [continuesIdentifier, htoNat k hk]
    exact hall k hk

/-! ### Characters -/

/-- **A character may stand in an identifier exactly when all of its upper case form may.** -/
theorem all_continuesIdentifier_upperChar (c : Char) :
    (upperChar c).all continuesIdentifier = continuesIdentifier c := by
  rcases upperChar_cases c with ⟨image, hlong, hupper⟩ | ⟨r, hr, m, himage, hupper⟩ | ⟨hupper, -⟩
  · obtain ⟨-, hcontinue, _, _, -, -, hall⟩ := upperLong_facts hlong
    rw [hupper, hall]
    exact hcontinue.symm
  · have hkeeps := List.all_eq_true.mp capitalRuns_keep_continue r hr
    rw [hupper, List.all_cons, List.all_nil, Bool.and_true, continuesIdentifier,
      toNat_of_isCapital (isCapital_of_imageAt? hr himage), CaseRun.inRanges_imageAt hkeeps himage]
    rfl
  · rw [hupper, List.all_cons, List.all_nil, Bool.and_true]

/-- A mark below a letter, whose upper case form is a letter. -/
def iotaSubscript : Char := '\u0345'

/-- **The upper case form of a character is an identifier exactly when the character is one**, the
iota subscript apart. -/
theorem isIdentifier_upperChar (c : Char) :
    isIdentifier (upperChar c) = (startsIdentifier c || c == iotaSubscript) := by
  by_cases hiota : c = iotaSubscript
  · rw [hiota]
    decide +kernel
  have hother : (c == iotaSubscript) = false := beq_false_of_ne hiota
  have hsingle (d : Char) : isIdentifier [d] = startsIdentifier d := Bool.and_true _
  rw [hother, Bool.or_false]
  rcases upperChar_cases c with ⟨image, hlong, hupper⟩ | ⟨r, hr, m, himage, hupper⟩ | ⟨hupper, -⟩
  · obtain ⟨hstart, -, m, rest, rfl, hfirst, hall⟩ := upperLong_facts hlong
    rw [List.map_cons, List.all_cons, Bool.and_eq_true] at hall
    rw [hupper, List.map_cons, isIdentifier, hfirst, hall.2]
    exact hstart.symm
  · have hkeeps : r.keeps identifierStartRanges := by
      rcases Bool.or_eq_true_iff.mp (List.all_eq_true.mp capitalRuns_keep_start r hr) with h | h
      · -- The only code point of this run is the iota subscript.
        simp only [Bool.and_eq_true, Nat.beq_eq] at h
        obtain ⟨hfirst, hlast, -, -⟩ := CaseRun.imageAt?_eq_some.mp himage
        have hc : c.toNat = iotaSubscript.toNat := by
          show c.toNat = 0x345
          omega
        exact absurd (Char.toNat_inj.mp hc) hiota
      · exact h
    rw [hupper, hsingle, startsIdentifier, toNat_of_isCapital (isCapital_of_imageAt? hr himage),
      CaseRun.inRanges_imageAt hkeeps himage]
    rfl
  · rw [hupper, hsingle]

/-! ### Texts -/

theorem isIdentifier_append {s : List Char} (hs : s ≠ []) (t : List Char) :
    isIdentifier (s ++ t) = (isIdentifier s && t.all continuesIdentifier) := by
  obtain ⟨c, rest, rfl⟩ := List.exists_cons_of_ne_nil hs
  rw [List.cons_append, isIdentifier, isIdentifier, List.all_append, Bool.and_assoc]

theorem all_continuesIdentifier_upper (s : List Char) :
    (upper s).all continuesIdentifier = s.all continuesIdentifier := by
  rw [upper, List.all_flatMap]
  exact congrArg s.all (funext all_continuesIdentifier_upperChar)

/-- Is the text an identifier when it is written in upper case? -/
def spellsIdentifier : List Char → Bool
  | [] => false
  | c :: rest => (startsIdentifier c || c == iotaSubscript) && rest.all continuesIdentifier

/-- **The upper case form of a text is an identifier exactly when the text spells one.** -/
theorem isIdentifier_upper : ∀ s : List Char, isIdentifier (upper s) = spellsIdentifier s
  | [] => rfl
  | c :: rest => by
    have hcons : upper (c :: rest) = upperChar c ++ upper rest := List.flatMap_cons
    rw [hcons, isIdentifier_append (upperChar_ne_nil c), isIdentifier_upperChar,
      all_continuesIdentifier_upper, spellsIdentifier]

end Text
end TrackingPlan
