import TrackingPlan.Proofs.Json.Bounds
import TrackingPlan.Proofs.Text.Newlines

/-!
# Line ends in JSON texts

Between the tokens of a JSON text all line ends are white space, and in a string none of them may
stand. So it does not matter in which form the lines of a text end: every stage of the reader
finds the same in the text with plain line feeds, and leaves the rest of it in that form.

Key definition: `Json.Carries`.
Key theorems: `Json.readString_normalizeNewlines`, `Json.hasLoneHalf_normalizeNewlines`,
`Json.carries_readAtom`, `Json.carries_read`, `Json.read_normalizeNewlines`.
-/

namespace TrackingPlan
namespace Json

open Text

variable {α β : Type}

/-! ### Strings -/

/-- What was read, with plain line feeds in the rest of the text. -/
def carry (y : α × List Char) : α × List Char := (y.1, normalizeNewlines y.2)

theorem skipSpace_normalizeNewlines (s : List Char) :
    skipSpace (normalizeNewlines s) = normalizeNewlines (skipSpace s) :=
  dropWhile_normalizeNewlines rfl s

/-- A line end is no digit of an escape. -/
theorem not_mem_of_hexUnit? {a b c d l : Char} {n : Nat} (hl : hexDigit? l = none)
    (h : hexUnit? a b c d = some n) : l ∉ [a, b, c, d] := by
  simp only [hexUnit?, Option.bind_eq_bind, Option.bind_eq_some_iff] at h
  obtain ⟨_, ha, _, hb, _, hc, _, hd, -⟩ := h
  intro hmem
  simp only [List.mem_cons, List.not_mem_nil, or_false] at hmem
  rcases hmem with rfl | rfl | rfl | rfl <;> simp_all

theorem readUnit?_normalizeNewlines (s : List Char) :
    readUnit? (normalizeNewlines s) = (readUnit? s).map carry := by
  ext ⟨n, r⟩
  have hlf : hexDigit? '\n' = none := rfl
  have hcr : hexDigit? '\r' = none := rfl
  simp only [readUnit?_eq_some, Option.map_eq_some_iff]
  constructor
  · rintro ⟨a, b, c, d, hs, hn⟩
    obtain ⟨t, rfl, ht⟩ := exists_of_normalizeNewlines_eq_append (a := [a, b, c, d])
      (not_mem_of_hexUnit? hlf hn) hs
    exact ⟨(n, t), readUnit?_eq_some.mpr ⟨a, b, c, d, rfl, hn⟩, by rw [carry, ht]⟩
  · rintro ⟨⟨m, t⟩, hm, heq⟩
    obtain ⟨rfl, rfl⟩ := Prod.mk.inj heq
    obtain ⟨a, b, c, d, rfl, hn⟩ := readUnit?_eq_some.mp hm
    exact ⟨a, b, c, d, normalizeNewlines_append (not_mem_of_hexUnit? hcr hn) t, hn⟩

theorem readEscape?_normalizeNewlines (s : List Char) :
    readEscape? (normalizeNewlines s) = (readEscape? s).map carry := by
  ext ⟨n, r⟩
  simp only [readEscape?_eq_some, Option.map_eq_some_iff]
  constructor
  · rintro ⟨t, hs, hn⟩
    obtain ⟨u, rfl, rfl⟩ := exists_of_normalizeNewlines_eq_append (a := ['\\', 'u']) (by decide) hs
    rw [readUnit?_normalizeNewlines] at hn
    obtain ⟨y, hy, heq⟩ := Option.map_eq_some_iff.mp hn
    exact ⟨y, readEscape?_eq_some.mpr ⟨u, rfl, hy⟩, heq⟩
  · rintro ⟨⟨m, t⟩, hm, heq⟩
    obtain ⟨u, rfl, hu⟩ := readEscape?_eq_some.mp hm
    refine ⟨normalizeNewlines u, rfl, ?_⟩
    rw [readUnit?_normalizeNewlines, hu, Option.map_some, heq]

theorem readPair_normalizeNewlines (n : Nat) (s : List Char) :
    readPair n (normalizeNewlines s) = carry (readPair n s) := by
  unfold readPair
  rw [readEscape?_normalizeNewlines]
  by_cases hhigh : isHighHalf n
  · rw [if_pos hhigh, if_pos hhigh]
    cases readEscape? s with
    | none => rfl
    | some y =>
      by_cases hlow : isLowHalf y.1 <;> simp [hlow, carry]
  · by_cases hlow : isLowHalf n <;> simp [hhigh, hlow, carry]

theorem readChar?_normalizeNewlines {c : Char} (hc : c ≠ '\r') (s : List Char) :
    readChar? (c :: normalizeNewlines s) = (readChar? (c :: s)).map carry := by
  by_cases hback : c = '\\'
  · subst hback
    match s with
    | [] => rfl
    | d :: s =>
      by_cases hreturn : d = '\r'
      · subst hreturn
        obtain ⟨t, ht⟩ := exists_normalizeNewlines_return s
        rw [ht, readChar?_letter (by decide), readChar?_letter (by decide)]
        rfl
      · rw [normalizeNewlines_cons hreturn]
        by_cases hu : d = 'u'
        · subst hu
          rw [readChar?, readChar?, readUnit?_normalizeNewlines]
          cases readUnit? s with
          | none => rfl
          | some y => exact congrArg some (readPair_normalizeNewlines y.1 y.2)
        · rw [readChar?_letter hu, readChar?_letter hu]
          cases escaped? d <;> rfl
  · rw [readChar?_plain hback, readChar?_plain hback]
    by_cases hcontrol : c.toNat < 0x20
    · rw [if_pos hcontrol, if_pos hcontrol]
      rfl
    · rw [if_neg hcontrol, if_neg hcontrol]
      rfl

/-- **A string is read alike** from the text with plain line feeds. -/
theorem readString_normalizeNewlines (s : List Char) :
    readString (normalizeNewlines s) = (readString s).map carry := by
  match s with
  | [] => rfl
  | c :: s =>
    by_cases hreturn : c = '\r'
    · subst hreturn
      obtain ⟨t, ht⟩ := exists_normalizeNewlines_return s
      rw [ht, readString_cons (by decide), readString_cons (by decide)]
      rfl
    · rw [normalizeNewlines_cons hreturn]
      by_cases hquote : c = '"'
      · subst hquote
        rfl
      · rw [readString_cons hquote, readString_cons hquote, readChar?_normalizeNewlines hreturn]
        cases hchar : readChar? (c :: s) with
        | none => rfl
        | some y =>
          have hrest := (readChar?_suffix (x := y.1) (r := y.2) hchar).length_le
          have ih := readString_normalizeNewlines y.2
          simp only [Option.map_some, Option.bind_some, carry, ih, Option.map_map]
          rfl
  termination_by s.length

/-- Behind the digits of an escape the text goes on, and is shorter there. -/
theorem hasLoneHalf_normalizeNewlines_digits {s : List Char}
    (ih : ∀ t : List Char, t.length ≤ s.length →
      hasLoneHalf (normalizeNewlines t) = hasLoneHalf t) :
    hasLoneHalf ('\\' :: 'u' :: normalizeNewlines s) = hasLoneHalf ('\\' :: 'u' :: s) := by
  rw [hasLoneHalf_digits, hasLoneHalf_digits, readUnit?_normalizeNewlines]
  cases hunit : readUnit? s with
  | none => exact ih s (Nat.le_refl _)
  | some y =>
    have hrest := (readUnit?_suffix (n := y.1) (r := y.2) hunit).length_le
    simp only [Option.map_some, carry, readEscape?_normalizeNewlines, ih y.2 hrest]
    cases hescape : readEscape? y.2 with
    | none => rfl
    | some z =>
      have hrest' := (readEscape?_suffix (n := z.1) (r := z.2) hescape).length_le
      simp only [Option.map_some, carry, ih z.2 (Nat.le_trans hrest' hrest)]

/-- **A lone half stands in both forms** of a text or in neither. -/
theorem hasLoneHalf_normalizeNewlines (s : List Char) :
    hasLoneHalf (normalizeNewlines s) = hasLoneHalf s := by
  match s with
  | [] => rfl
  | c :: s =>
    by_cases hreturn : c = '\r'
    · subst hreturn
      by_cases hfeed : s.head? = some '\n'
      · obtain ⟨rest, rfl⟩ := List.head?_eq_some_iff.mp hfeed
        rw [normalizeNewlines, hasLoneHalf_plain (by decide), hasLoneHalf_plain (by decide),
          hasLoneHalf_plain (by decide)]
        exact hasLoneHalf_normalizeNewlines rest
      · rw [normalizeNewlines_return hfeed, hasLoneHalf_plain (by decide),
          hasLoneHalf_plain (by decide)]
        exact hasLoneHalf_normalizeNewlines s
    · rw [normalizeNewlines_cons hreturn]
      by_cases hback : c = '\\'
      · subst hback
        match s with
        | [] => rfl
        | d :: s =>
          by_cases hu : d = 'u'
          · subst hu
            rw [normalizeNewlines_cons (by decide)]
            exact hasLoneHalf_normalizeNewlines_digits fun t ht => hasLoneHalf_normalizeNewlines t
          · rw [hasLoneHalf_letter hu]
            by_cases hreturn' : d = '\r'
            · -- What the backslash escapes counts no more than a plain character.
              subst hreturn'
              obtain ⟨t, ht⟩ := exists_normalizeNewlines_return s
              have ih := hasLoneHalf_normalizeNewlines ('\r' :: s)
              rw [ht, hasLoneHalf_plain (by decide), hasLoneHalf_plain (by decide)] at ih
              rw [ht, hasLoneHalf_letter (by decide), ih]
            · rw [normalizeNewlines_cons hreturn', hasLoneHalf_letter hu]
              exact hasLoneHalf_normalizeNewlines s
      · rw [hasLoneHalf_plain hback, hasLoneHalf_plain hback]
        exact hasLoneHalf_normalizeNewlines s
  termination_by s.length

/-! ### Numbers -/

theorem digitRun_normalizeNewlines (s : List Char) :
    Double.digitRun (normalizeNewlines s) = carry (Double.digitRun s) := by
  have htake := takeWhile_normalizeNewlines (p := Char.isDigit) rfl rfl s
  have hdrop := dropWhile_normalizeNewlines (p := Char.isDigit) rfl s
  rw [Double.digitRun, htake, hdrop]
  rfl

theorem wholeDigits_normalizeNewlines (s : List Char) :
    wholeDigits (normalizeNewlines s) = carry (wholeDigits s) := by
  unfold wholeDigits
  split
  · rename_i t hs
    obtain ⟨r, rfl, rfl⟩ := exists_of_normalizeNewlines_eq_cons (by decide) hs
    rfl
  · rename_i hother
    split
    · rename_i r
      exact absurd (normalizeNewlines_cons (by decide) r) (hother _)
    · exact digitRun_normalizeNewlines s

theorem fractionDigits?_normalizeNewlines (s : List Char) :
    fractionDigits? (normalizeNewlines s) = (fractionDigits? s).map carry := by
  refine normalizeNewlines_cases
    (motive := fun s t => fractionDigits? t = (fractionDigits? s).map carry) rfl
    (fun _ _ _ => rfl) ?_ s
  intro c s hc
  by_cases hpoint : c = '.'
  · subst hpoint
    simp only [fractionDigits?, digitRun_normalizeNewlines, carry]
    cases (Double.digitRun s).1.isEmpty <;> rfl
  · simp [fractionDigits?, hpoint]

theorem splitSign_normalizeNewlines (s : List Char) :
    Double.splitSign (normalizeNewlines s) = carry (Double.splitSign s) := by
  refine normalizeNewlines_cases
    (motive := fun s t => Double.splitSign t = carry (Double.splitSign s)) rfl
    (fun s t ht => ?_) (fun c s hc => ?_) s
  · simp [Double.splitSign, carry, ht]
  · by_cases hminus : c = '-'
    · subst hminus
      rfl
    · by_cases hplus : c = '+'
      · subst hplus
        rfl
      · simp [Double.splitSign, carry, hminus, hplus, normalizeNewlines_cons hc]

theorem exponentPart?_normalizeNewlines (s : List Char) :
    exponentPart? (normalizeNewlines s) = (exponentPart? s).map carry := by
  refine normalizeNewlines_cases
    (motive := fun s t => exponentPart? t = (exponentPart? s).map carry) rfl (fun _ _ _ => rfl) ?_ s
  intro c s hc
  by_cases hletter : c = 'e' ∨ c = 'E'
  · simp only [exponentPart?, if_pos hletter, splitSign_normalizeNewlines, carry,
      digitRun_normalizeNewlines]
    cases (Double.digitRun (Double.splitSign s).2).1.isEmpty <;> rfl
  · simp [exponentPart?, hletter]

theorem getD_map_carry {γ : Type} (part : Option (γ × List Char)) (x : γ) (s : List Char) :
    (part.map carry).getD (x, normalizeNewlines s) = carry (part.getD (x, s)) := by
  cases part <;> rfl

theorem readUnsigned_normalizeNewlines (negative : Bool) (s : List Char) :
    readUnsigned negative (normalizeNewlines s) = (readUnsigned negative s).map carry := by
  rcases hwhole : wholeDigits s with ⟨whole, rest⟩
  have hwhole' : wholeDigits (normalizeNewlines s) = (whole, normalizeNewlines rest) := by
    rw [wholeDigits_normalizeNewlines, hwhole, carry]
  rcases hfraction : (fractionDigits? rest).getD ([], rest) with ⟨digits, rest'⟩
  have hfraction' : ((fractionDigits? rest).map carry).getD ([], normalizeNewlines rest) =
      (digits, normalizeNewlines rest') := by
    rw [getD_map_carry, hfraction, carry]
  simp only [readUnsigned, hwhole, hwhole', fractionDigits?_normalizeNewlines, hfraction,
    hfraction', exponentPart?_normalizeNewlines, getD_map_carry, Option.isSome_map]
  split
  · rfl
  · split
    · rfl
    · split <;> rfl

/-! ### Values without parts -/

/-- A stage that finds the same in the text with plain line feeds. -/
def Carries (p : List Char → Reading α) : Prop :=
  ∀ s, p (normalizeNewlines s) = (p s).map carry

theorem afterWord?_normalizeNewlines {word : List Char} (hlf : '\n' ∉ word) (hcr : '\r' ∉ word)
    (s : List Char) :
    afterWord? word (normalizeNewlines s) = (afterWord? word s).map normalizeNewlines := by
  ext r
  rw [afterWord?_eq_some, Option.map_eq_some_iff]
  constructor
  · intro h
    obtain ⟨t, rfl, ht⟩ := exists_of_normalizeNewlines_eq_append hlf h
    exact ⟨t, afterWord?_eq_some.mpr rfl, ht⟩
  · rintro ⟨t, ht, rfl⟩
    rw [afterWord?_eq_some.mp ht, normalizeNewlines_append hcr]

/-- The first of some words that is there, when none of them goes over a line end. -/
theorem findSome?_normalizeNewlines {table : List (List Char × Json)}
    (h : ∀ p ∈ table, '\n' ∉ p.1 ∧ '\r' ∉ p.1) (s : List Char) :
    (table.findSome? fun (word, v) => (afterWord? word (normalizeNewlines s)).map fun r => (v, r)) =
      (table.findSome? fun (word, v) => (afterWord? word s).map fun r => (v, r)).map carry := by
  induction table with
  | nil => rfl
  | cons p table ih =>
    obtain ⟨hlf, hcr⟩ := h p List.mem_cons_self
    have hrest := ih fun q hq => h q (List.mem_cons_of_mem p hq)
    simp only [List.findSome?_cons, afterWord?_normalizeNewlines hlf hcr, hrest]
    cases afterWord? p.1 s <;> rfl

theorem carries_readAtom : Carries readAtom := by
  intro s
  have hplain : ∀ p ∈ words, '\n' ∉ p.1 ∧ '\r' ∉ p.1 := by decide
  unfold readAtom
  rw [findSome?_normalizeNewlines hplain]
  cases words.findSome? fun (word, v) => (afterWord? word s).map fun rest => (v, rest) with
  | some found => rfl
  | none =>
    simp only [Option.map_none]
    split
    · rename_i t hs
      obtain ⟨r, rfl, rfl⟩ := exists_of_normalizeNewlines_eq_cons (by decide) hs
      exact readUnsigned_normalizeNewlines true r
    · rename_i hother
      split
      · rename_i r
        exact absurd (normalizeNewlines_cons (by decide) r) (hother _)
      · exact readUnsigned_normalizeNewlines false s

/-! ### Lists and objects -/

theorem Carries.map {p : List Char → Reading α} (hp : Carries p) (f : α → β) :
    Carries fun s => (p s).map fun (x, r) => (f x, r) := by
  intro s
  dsimp only
  rw [hp s]
  cases p s <;> rfl

theorem carries_readThen {p : List Char → Reading α} {q : α → List Char → Reading β}
    (hp : Carries p) (hq : ∀ x, Carries (q x)) : Carries (readThen p q) := by
  intro s
  rw [readThen, readThen, hp s]
  cases p s with
  | error e => rfl
  | ok y =>
    show q y.1 (skipSpace (normalizeNewlines y.2)) = (q y.1 (skipSpace y.2)).map carry
    rw [skipSpace_normalizeNewlines, hq]

variable {close : Char} {next : List Char → Reading (List α)}

theorem carries_readMore (hlf : close ≠ '\n') (hcr : close ≠ '\r') (h : Carries next) (x : α) :
    Carries (readMore close next x) := by
  refine normalizeNewlines_cases
    (motive := fun s t => readMore close next x t = (readMore close next x s).map carry) rfl ?_ ?_
  · intro s t _
    simp [readMore, hlf.symm, hcr.symm, Except.map]
  · intro c s hc
    rw [readMore, readMore]
    by_cases hclose : c = close
    · rw [if_pos hclose, if_pos hclose]
      rfl
    · rw [if_neg hclose, if_neg hclose]
      by_cases hcomma : c = ','
      · rw [if_pos hcomma, if_pos hcomma, skipSpace_normalizeNewlines]
        exact h.map (x :: ·) (skipSpace s)
      · rw [if_neg hcomma, if_neg hcomma]
        rfl

theorem carries_readContents (hlf : close ≠ '\n') (hcr : close ≠ '\r') (h : Carries next) :
    Carries (readContents close next) := by
  refine normalizeNewlines_cases
    (motive := fun s t => readContents close next t = (readContents close next s).map carry)
    (h []) ?_ ?_
  · intro s t ht
    rw [readContents, readContents, if_neg hlf.symm, if_neg hcr.symm, ← ht, h]
  · intro c s hc
    rw [readContents, readContents]
    by_cases hclose : c = close
    · rw [if_pos hclose, if_pos hclose]
      rfl
    · rw [if_neg hclose, if_neg hclose, ← normalizeNewlines_cons hc, h]

theorem carries_readQuoted : Carries readQuoted := by
  refine normalizeNewlines_cases (motive := fun s t => readQuoted t = (readQuoted s).map carry) rfl
    (fun _ _ _ => rfl) ?_
  intro c s hc
  by_cases hquote : c = '"'
  · subst hquote
    rw [readQuoted, readQuoted, readString_normalizeNewlines]
    cases readString s <;> rfl
  · simp [readQuoted, hquote, Except.map]

theorem carries_readColon (name : String) : Carries (readColon name) := by
  refine normalizeNewlines_cases
    (motive := fun s t => readColon name t = (readColon name s).map carry) rfl (fun _ _ _ => rfl) ?_
  intro c s hc
  by_cases hcolon : c = ':'
  · subst hcolon
    rfl
  · simp [readColon, hcolon, Except.map]

theorem carries_readName : Carries readName :=
  carries_readThen carries_readQuoted carries_readColon

theorem carries_readValue_succ {fuel : Nat} (hitems : ∀ depth, Carries (readItems fuel depth))
    (hmembers : ∀ depth, Carries (readMembers fuel depth)) (depth : Nat) :
    Carries (readValue (fuel + 1) depth) := by
  intro s
  cases s using readValue_cases with
  | nil =>
    rw [normalizeNewlines_nil, readValue_nil]
    exact carries_readAtom []
  | string s =>
    rw [normalizeNewlines_cons (by decide), readValue_quoted, readValue_quoted,
      ← normalizeNewlines_cons (by decide)]
    exact carries_readQuoted.map str ('"' :: s)
  | list s =>
    rw [normalizeNewlines_cons (by decide)]
    cases depth with
    | zero => rw [readValue, readValue]; rfl
    | succ depth =>
      rw [readValue_list, readValue_list, skipSpace_normalizeNewlines]
      exact (carries_readContents (by decide) (by decide) (hitems depth)).map arr (skipSpace s)
  | object s =>
    rw [normalizeNewlines_cons (by decide)]
    cases depth with
    | zero => rw [readValue, readValue]; rfl
    | succ depth =>
      rw [readValue_object, readValue_object, skipSpace_normalizeNewlines]
      exact (carries_readContents (by decide) (by decide) (hmembers depth)).map
        (obj ∘ Assoc.ofPairs) (skipSpace s)
  | atom c s hc =>
    have hatom : readValue (fuel + 1) depth (normalizeNewlines (c :: s)) =
        readAtom (normalizeNewlines (c :: s)) := by
      by_cases hreturn : c = '\r'
      · subst hreturn
        obtain ⟨t, ht⟩ := exists_normalizeNewlines_return s
        rw [ht, readValue_atom (by decide)]
      · rw [normalizeNewlines_cons hreturn, readValue_atom hc]
    rw [readValue_atom hc, hatom]
    exact carries_readAtom (c :: s)

/-- **A value is read alike** from the text with plain line feeds. -/
theorem carries_read (fuel : Nat) : (∀ depth, Carries (readValue fuel depth)) ∧
    (∀ depth, Carries (readItems fuel depth)) ∧ ∀ depth, Carries (readMembers fuel depth) := by
  induction fuel with
  | zero => exact ⟨fun _ _ => rfl, fun _ _ => rfl, fun _ _ => rfl⟩
  | succ fuel ih =>
    obtain ⟨hvalue, hitems, hmembers⟩ := ih
    refine ⟨carries_readValue_succ hitems hmembers, fun depth => ?_, fun depth => ?_⟩
    · rw [readItems_succ]
      exact carries_readThen (hvalue depth) fun v =>
        carries_readMore (by decide) (by decide) (hitems depth) v
    · rw [readMembers_succ]
      exact carries_readThen carries_readName fun name => carries_readThen (hvalue depth) fun v =>
        carries_readMore (by decide) (by decide) (hmembers depth) (name, v)

theorem isEmpty_normalizeNewlines (s : List Char) : (normalizeNewlines s).isEmpty = s.isEmpty :=
  normalizeNewlines_cases (motive := fun s t => t.isEmpty = s.isEmpty) rfl (fun _ _ _ => rfl)
    (fun _ _ _ => rfl) s

/-- **A document is read alike** whichever way its lines end. -/
theorem read_normalizeNewlines (depth : Nat) (text : String) :
    read depth (String.ofList (normalizeNewlines text.toList)) = read depth text := by
  have hlength := length_normalizeNewlines_le text.toList
  have hspace := length_skipSpace_le (normalizeNewlines text.toList)
  -- The shorter text is read under a smaller bound, which does not show.
  have hvalue : readValue (2 * (normalizeNewlines text.toList).length + 2) depth
        (skipSpace (normalizeNewlines text.toList)) =
      (readValue (2 * text.toList.length + 2) depth (skipSpace text.toList)).map carry := by
    have hbound : 2 * (normalizeNewlines text.toList).length + 2 ≤ 2 * text.toList.length + 2 := by
      omega
    rw [← readValue_of_le (by omega) hbound, skipSpace_normalizeNewlines]
    exact (carries_read _).1 depth (skipSpace text.toList)
  simp only [read, String.toList_ofList, hvalue]
  cases readValue (2 * text.toList.length + 2) depth (skipSpace text.toList) with
  | error e => rfl
  | ok y =>
    simp only [Except.map, carry, skipSpace_normalizeNewlines, isEmpty_normalizeNewlines,
      hasLoneHalf_normalizeNewlines]

end Json
end TrackingPlan
