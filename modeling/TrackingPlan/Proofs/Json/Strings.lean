import TrackingPlan.Json.Reader

/-!
# Strings, character by character

A string is its first character and the string after it. The first character stands for itself or
is escaped, by a letter or by the digits of a number; two numbers that are halves of a surrogate
pair are one character. Whatever is read takes something off the start of the text.

Key definitions: `Json.readUnit?`, `Json.readEscape?`, `Json.readPair`, `Json.readChar?`.
Key theorems: `Json.readString_cons`, `Json.readString_suffix`, `Json.hasLoneHalf_digits`.
-/

namespace TrackingPlan
namespace Json

/-! ### One character -/

/-- The number that four digits write, and the rest. -/
def readUnit? : List Char → Option (Nat × List Char)
  | a :: b :: c :: d :: rest => (hexUnit? a b c d).map (·, rest)
  | _ => none

/-- The number of an escape that is written with digits, and the rest. -/
def readEscape? : List Char → Option (Nat × List Char)
  | '\\' :: 'u' :: rest => readUnit? rest
  | _ => none

/-- The character of a number. The first half of a surrogate pair takes the other half off the
text, and a half that stands alone leaves its mark. -/
def readPair (n : Nat) (rest : List Char) : Char × List Char :=
  if isHighHalf n then
    match readEscape? rest with
    | some (m, rest') =>
      if isLowHalf m then
        (Char.ofNat (0x10000 + (n - 0xD800) * 0x400 + (m - 0xDC00)), rest')
      else (halfMark, rest)
    | none => (halfMark, rest)
  else if isLowHalf n then (halfMark, rest)
  else (Char.ofNat n, rest)

/-- One character of a string, which may be escaped, and the rest. -/
def readChar? : List Char → Option (Char × List Char)
  | [] => none
  | '\\' :: 'u' :: rest => (readUnit? rest).map fun (n, rest) => readPair n rest
  | '\\' :: c :: rest => (escaped? c).map (·, rest)
  | c :: rest => if c.toNat < 0x20 then none else some (c, rest)

theorem readChar?_letter {c : Char} (h : c ≠ 'u') (s : List Char) :
    readChar? ('\\' :: c :: s) = (escaped? c).map (·, s) := by
  rw [readChar?]
  exact h

theorem readChar?_plain {c : Char} (h : c ≠ '\\') (s : List Char) :
    readChar? (c :: s) = if c.toNat < 0x20 then none else some (c, s) := by
  rw [readChar?]
  · exact fun _ h' => absurd h' h
  · exact fun _ _ h' => absurd h' h

theorem readUnit?_eq_some {s r : List Char} {n : Nat} : readUnit? s = some (n, r) ↔
    ∃ a b c d, s = a :: b :: c :: d :: r ∧ hexUnit? a b c d = some n := by
  constructor
  · intro h
    match s with
    | [] | [_] | [_, _] | [_, _, _] => exact nomatch h
    | a :: b :: c :: d :: rest =>
      obtain ⟨m, hm, heq⟩ := Option.map_eq_some_iff.mp h
      obtain ⟨rfl, rfl⟩ := Prod.mk.inj heq
      exact ⟨a, b, c, d, rfl, hm⟩
  · rintro ⟨a, b, c, d, rfl, h⟩
    rw [readUnit?, h, Option.map_some]

theorem readEscape?_eq_some {s r : List Char} {n : Nat} : readEscape? s = some (n, r) ↔
    ∃ t, s = '\\' :: 'u' :: t ∧ readUnit? t = some (n, r) := by
  constructor
  · intro h
    unfold readEscape? at h
    split at h
    · rename_i t
      exact ⟨t, rfl, h⟩
    · exact nomatch h
  · rintro ⟨t, rfl, h⟩
    exact h

theorem readEscape?_eq_none {s : List Char}
    (h : ∀ a b c d rest, s ≠ '\\' :: 'u' :: a :: b :: c :: d :: rest) : readEscape? s = none := by
  unfold readEscape?
  split
  · unfold readUnit?
    split
    · exact absurd rfl (h _ _ _ _ _)
    · rfl
  · rfl

/-! ### The first character of a string -/

/-- After a backslash and a letter other than the one for digits. -/
theorem readString_letter {c : Char} (h : c ≠ 'u') (s : List Char) : readString ('\\' :: c :: s) =
    ((escaped? c).map (·, s)).bind fun (x, rest) =>
      (readString rest).map fun (t, r) => (x :: t, r) := by
  rw [readString]
  · cases escaped? c <;> rfl
  · exact fun _ _ _ _ _ h' => absurd h' h

/-- An escape without a number is in no string. -/
theorem readString_of_no_unit {a b c d : Char} (h : hexUnit? a b c d = none) (s : List Char) :
    readString ('\\' :: 'u' :: a :: b :: c :: d :: s) = none := by
  rw [readString.eq_def]
  simp only [h]

/-- After a backslash and the letter for digits. -/
theorem readString_digits (s : List Char) : readString ('\\' :: 'u' :: s) =
    ((readUnit? s).map fun (n, rest) => readPair n rest).bind fun (x, rest) =>
      (readString rest).map fun (t, r) => (x :: t, r) := by
  match s with
  | [] | [_] | [_, _] | [_, _, _] => simp [readString, readUnit?, escaped?]
  | a :: b :: c :: d :: rest =>
    cases hunit : hexUnit? a b c d with
    | none =>
      rw [readString_of_no_unit hunit, readUnit?, hunit]
      rfl
    | some n =>
      rw [readString.eq_def, readUnit?]
      simp only [hunit, Option.map_some, Option.bind_some, readPair]
      by_cases hhigh : isHighHalf n
      · simp only [hhigh, if_true]
        split
        · rename_i a' b' c' d' rest'
          rw [readEscape?, readUnit?]
          cases hother : hexUnit? a' b' c' d' with
          | none =>
            simp only [Option.map_none, readString_of_no_unit hother]
          | some m => by_cases hlow : isLowHalf m <;> simp [hlow]
        · rename_i hrest
          rw [readEscape?_eq_none hrest]
      · by_cases hlow : isLowHalf n <;> simp [hhigh, hlow]

/-- **A string is its first character and the string after it.** -/
theorem readString_cons {c : Char} (h : c ≠ '"') (s : List Char) : readString (c :: s) =
    (readChar? (c :: s)).bind fun (x, rest) => (readString rest).map fun (t, r) => (x :: t, r) := by
  by_cases hback : c = '\\'
  · subst hback
    match s with
    | [] => simp [readString, readChar?]
    | c :: s =>
      by_cases hu : c = 'u'
      · subst hu
        exact readString_digits s
      · rw [readString_letter hu, readChar?_letter hu]
  · have hplain : readString (c :: s) = if c.toNat < 0x20 then none
        else (readString s).map fun (t, r) => (c :: t, r) := by
      rw [readString]
      · exact h
      · exact fun _ _ _ _ _ h' => absurd h' hback
      · exact fun _ _ h' => absurd h' hback
    rw [hplain, readChar?_plain hback]
    by_cases hcontrol : c.toNat < 0x20
    · rw [if_pos hcontrol, if_pos hcontrol]
      rfl
    · rw [if_neg hcontrol, if_neg hcontrol]
      rfl

/-! ### The text that is left -/

theorem readUnit?_suffix {s r : List Char} {n : Nat} (h : readUnit? s = some (n, r)) : r <:+ s := by
  obtain ⟨a, b, c, d, rfl, -⟩ := readUnit?_eq_some.mp h
  exact ⟨[a, b, c, d], rfl⟩

theorem readEscape?_suffix {s r : List Char} {n : Nat} (h : readEscape? s = some (n, r)) :
    r <:+ s := by
  obtain ⟨t, rfl, ht⟩ := readEscape?_eq_some.mp h
  exact (readUnit?_suffix ht).trans ⟨['\\', 'u'], rfl⟩

theorem readPair_suffix (n : Nat) (s : List Char) : (readPair n s).2 <:+ s := by
  unfold readPair
  split
  · split
    · rename_i hescape
      split
      · exact readEscape?_suffix hescape
      · exact List.suffix_rfl
    · exact List.suffix_rfl
  · split <;> exact List.suffix_rfl

/-- A character takes something off the text. -/
theorem readChar?_suffix {c x : Char} {s r : List Char} (h : readChar? (c :: s) = some (x, r)) :
    r <:+ s := by
  unfold readChar? at h
  split at h
  · exact nomatch h
  · rename_i rest heq
    obtain ⟨rfl, rfl⟩ := List.cons.inj heq
    obtain ⟨⟨n, rest'⟩, hn, hx⟩ := Option.map_eq_some_iff.mp h
    obtain rfl : (readPair n rest').2 = r := congrArg Prod.snd hx
    exact ((readPair_suffix n rest').trans (readUnit?_suffix hn)).trans (List.suffix_cons _ _)
  · rename_i d rest _ heq
    obtain ⟨rfl, rfl⟩ := List.cons.inj heq
    obtain ⟨y, -, heq⟩ := Option.map_eq_some_iff.mp h
    obtain ⟨rfl, rfl⟩ := Prod.mk.inj heq
    exact List.suffix_cons _ _
  · rename_i heq
    obtain ⟨rfl, rfl⟩ := List.cons.inj heq
    split at h
    · exact nomatch h
    · cases h
      exact List.suffix_rfl

theorem readString_suffix {s x r : List Char} (h : readString s = some (x, r)) : r <:+ s := by
  match s with
  | [] => exact nomatch h
  | c :: s =>
    by_cases hquote : c = '"'
    · subst hquote
      cases h
      exact List.suffix_cons _ _
    · rw [readString_cons hquote] at h
      obtain ⟨⟨y, rest⟩, hy, h⟩ := Option.bind_eq_some_iff.mp h
      obtain ⟨⟨t, r'⟩, ht, heq⟩ := Option.map_eq_some_iff.mp h
      obtain ⟨-, rfl⟩ := Prod.mk.inj heq
      have hrest : rest <:+ s := readChar?_suffix hy
      have := hrest.length_le
      exact ((readString_suffix ht).trans hrest).trans (List.suffix_cons c s)
  termination_by s.length

/-! ### Halves that stand alone -/

theorem hasLoneHalf_plain {c : Char} (h : c ≠ '\\') (s : List Char) :
    hasLoneHalf (c :: s) = hasLoneHalf s := by
  rw [hasLoneHalf]
  · exact fun _ _ _ _ _ h' => absurd h' h
  · exact fun _ _ h' => absurd h' h

theorem hasLoneHalf_letter {c : Char} (h : c ≠ 'u') (s : List Char) :
    hasLoneHalf ('\\' :: c :: s) = hasLoneHalf s := by
  rw [hasLoneHalf]
  exact fun _ _ _ _ _ h' => absurd h' h

/-- After a backslash and the letter for digits. -/
theorem hasLoneHalf_digits (s : List Char) : hasLoneHalf ('\\' :: 'u' :: s) =
    match readUnit? s with
    | none => hasLoneHalf s
    | some (n, rest) =>
      if isHighHalf n then
        match readEscape? rest with
        | some (m, rest') => !isLowHalf m || hasLoneHalf rest'
        | none => true
      else isLowHalf n || hasLoneHalf rest := by
  match s with
  | [] | [_] | [_, _] | [_, _, _] => simp [hasLoneHalf, readUnit?]
  | a :: b :: c :: d :: rest =>
    rw [hasLoneHalf.eq_def, readUnit?]
    cases hunit : hexUnit? a b c d with
    | none => simp only [hunit, Option.map_none]
    | some n =>
      simp only [hunit, Option.map_some]
      by_cases hhigh : isHighHalf n
      · simp only [hhigh, if_true]
        split
        · rename_i a' b' c' d' rest'
          rw [readEscape?, readUnit?]
          cases hexUnit? a' b' c' d' <;> rfl
        · rename_i hrest
          rw [readEscape?_eq_none hrest]
      · simp [hhigh]

end Json
end TrackingPlan
