import TrackingPlan.Json.Limits
import TrackingPlan.Json.Printer
import TrackingPlan.Json.Reader

/-!
# Tokens that are read back

Strings and integers are read back as they were written, and the space between tokens is skipped.
An integer is the only token that does not show where it ends; in a written text there is nothing
after it, or a comma, or the end of a line.

Key definitions: `Json.Ends`.
Key theorems: `Json.readString_escape`, `Json.readString_quoted`, `Json.readUnsigned_toDigits`,
`Json.readAtom_int`.
-/

namespace TrackingPlan
namespace Json

/-! ### Space -/

/-- What follows a value in a written text. -/
def Ends (rest : List Char) : Prop := ∀ c ∈ rest.head?, c = ',' ∨ c = '\n'

theorem ends_nil : Ends [] := fun _ h => nomatch h

theorem ends_comma (rest : List Char) : Ends (',' :: rest) :=
  fun _ h => .inl (Option.some.inj h).symm

theorem ends_newLine (depth : Nat) (rest : List Char) : Ends ((newLine depth).toList ++ rest) := by
  intro c h
  rw [newLine, String.toList_ofList] at h
  exact .inr (Option.some.inj h).symm

theorem length_newLine_pos (depth : Nat) : 0 < (newLine depth).toList.length := by
  rw [newLine, String.toList_ofList]
  exact Nat.succ_pos _

theorem skipSpace_cons {c : Char} (h : isSpace c = false) (rest : List Char) :
    skipSpace (c :: rest) = c :: rest := by
  rw [skipSpace, List.dropWhile_cons_of_neg (by simp [h])]

theorem skipSpace_newLine (depth : Nat) (rest : List Char) :
    skipSpace ((newLine depth).toList ++ rest) = skipSpace rest := by
  have hall : ∀ c ∈ (newLine depth).toList, isSpace c := by
    intro c hc
    rw [newLine, String.toList_ofList, List.mem_cons, List.mem_replicate] at hc
    rcases hc with rfl | ⟨-, rfl⟩ <;> rfl
  rw [skipSpace, List.dropWhile_append_of_pos hall]
  rfl

/-! ### Strings -/

theorem hexDigit?_digitChar : ∀ d < 16, Text.hexDigit? (Nat.digitChar d) = some d := by decide

/-- The four digits of a control character give its number. -/
theorem hexUnit?_control {n : Nat} (h : n < 0x20) :
    hexUnit? '0' '0' (Nat.digitChar (n / 16)) (Nat.digitChar (n % 16)) = some n := by
  have hhigh := hexDigit?_digitChar (n / 16) (by omega)
  have hlow := hexDigit?_digitChar (n % 16) (by omega)
  have hzero : Text.hexDigit? '0' = some 0 := by decide
  rw [hexUnit?, hhigh, hlow, hzero]
  show some (((0 * 16 + 0) * 16 + n / 16) * 16 + n % 16) = some n
  congr 1
  omega

/-- **One written character is read back.** -/
theorem readString_escape (c : Char) (rest : List Char) : readString (Text.escape c ++ rest) =
    (readString rest).map fun (s, r) => (c :: s, r) := by
  unfold Text.escape
  split
  case h_8 =>
    -- A control character is written with its number, any other one as it is.
    split
    · rename_i hcontrol
      have hunit := hexUnit?_control hcontrol
      have hhigh : isHighHalf c.toNat = false := by simp [isHighHalf]; omega
      have hlow : isLowHalf c.toNat = false := by simp [isLowHalf]; omega
      rw [List.cons_append, List.cons_append, readString.eq_def]
      simp only [List.cons_append, List.nil_append, hunit, hhigh, hlow, Bool.false_eq_true,
        if_false, Char.ofNat_toNat]
    · rename_i hplain
      rw [List.singleton_append, readString.eq_def]
      split
      case h_5 heq =>
        obtain ⟨rfl, rfl⟩ := List.cons.inj heq
        rw [if_neg hplain]
      all_goals simp_all
  all_goals simp [readString, escaped?]

/-- **A written string is read back.** -/
theorem readString_quoted (s rest : List Char) :
    readString (s.flatMap Text.escape ++ '"' :: rest) = some (s, rest) := by
  induction s with
  | nil => simp [readString]
  | cons c s ih => rw [List.flatMap_cons, List.append_assoc, readString_escape, ih, Option.map_some]

/-! ### Integers -/

theorem not_isDigit_of_ends {rest : List Char} (h : Ends rest) :
    ∀ c ∈ rest.head?, c.isDigit = false := by
  intro c hc
  rcases h c hc with rfl | rfl <;> rfl

/-- The digits of a number other than zero do not start with a zero. -/
theorem toDigits_eq_cons {n : Nat} (hn : 0 < n) :
    ∃ c rest, Nat.toDigits 10 n = c :: rest ∧ c.isDigit ∧ c ≠ '0' := by
  induction n using Nat.strongRecOn with
  | _ n ih =>
    by_cases hsmall : n < 10
    · have hdigit : ∀ d < 10, 0 < d → (Nat.digitChar d).isDigit ∧ Nat.digitChar d ≠ '0' := by
        decide
      exact ⟨_, [], Nat.toDigits_of_lt_base hsmall, hdigit n hsmall hn⟩
    · obtain ⟨c, rest, hdigits, hc⟩ := ih (n / 10) (by omega) (by omega)
      refine ⟨c, rest ++ [Nat.digitChar (n % 10)], ?_, hc⟩
      rw [Nat.toDigits_of_base_le (by omega) (by omega), hdigits, List.cons_append]

theorem exists_digit (n : Nat) : ∃ c rest, Nat.toDigits 10 n = c :: rest ∧ c.isDigit := by
  rcases Nat.eq_zero_or_pos n with rfl | hn
  · exact ⟨'0', [], rfl, rfl⟩
  · obtain ⟨c, rest, hdigits, hc, -⟩ := toDigits_eq_cons hn
    exact ⟨c, rest, hdigits, hc⟩

/-- A run of digits ends where the digits do. -/
theorem digitRun_append {digits rest : List Char} (hdigits : ∀ c ∈ digits, c.isDigit)
    (hrest : ∀ c ∈ rest.head?, c.isDigit = false) :
    Double.digitRun (digits ++ rest) = (digits, rest) := by
  have hnone : rest.takeWhile Char.isDigit = [] ∧ rest.dropWhile Char.isDigit = rest := by
    cases rest with
    | nil => exact ⟨rfl, rfl⟩
    | cons c rest =>
      have hc := hrest c rfl
      exact ⟨List.takeWhile_cons_of_neg (by simp [hc]), List.dropWhile_cons_of_neg (by simp [hc])⟩
  rw [Double.digitRun, List.takeWhile_append_of_pos hdigits, List.dropWhile_append_of_pos hdigits,
    hnone.1, hnone.2, List.append_nil]

theorem wholeDigits_toDigits (n : Nat) {rest : List Char}
    (hrest : ∀ c ∈ rest.head?, c.isDigit = false) :
    wholeDigits (Nat.toDigits 10 n ++ rest) = (Nat.toDigits 10 n, rest) := by
  rcases Nat.eq_zero_or_pos n with rfl | hn
  · rfl
  · obtain ⟨c, tail, hdigits, -, hzero⟩ := toDigits_eq_cons hn
    have hwhole : wholeDigits (c :: tail ++ rest) = Double.digitRun (c :: tail ++ rest) := by
      rw [List.cons_append, wholeDigits]
      exact fun _ h => hzero (List.cons.inj h).1
    rw [hdigits, hwhole, ← hdigits]
    refine digitRun_append (fun c hc => ?_) hrest
    exact Nat.isDigit_of_mem_toDigits (by omega) (by omega) hc

variable {rest : List Char}

theorem fractionDigits?_of_ends (h : Ends rest) : fractionDigits? rest = none := by
  unfold fractionDigits?
  split
  · rcases h '.' rfl with h | h <;> exact absurd h (by decide)
  · rfl

theorem exponentPart?_of_ends (h : Ends rest) : exponentPart? rest = none := by
  cases rest with
  | nil => rfl
  | cons c rest => rcases h c rfl with rfl | rfl <;> rfl

/-- **The digits of a number are read back**, when there are not too many of them. -/
theorem readUnsigned_toDigits (negative : Bool) {n : Nat} (h : Ends rest)
    (hlength : (Nat.toDigits 10 n).length ≤ maxIntegerDigits) :
    readUnsigned negative (Nat.toDigits 10 n ++ rest) =
      .ok (int (if negative then -(n : Int) else n), rest) := by
  have hvalue : Double.digitsValue (Nat.toDigits 10 n) = n := Nat.ofDigitChars_ten_toDigits
  have hsome : (Nat.toDigits 10 n).isEmpty = false := by simp
  rw [readUnsigned, wholeDigits_toDigits n (not_isDigit_of_ends h)]
  simp only [fractionDigits?_of_ends h, exponentPart?_of_ends h, hsome, Option.getD_none,
    Option.isSome_none, Bool.or_false, Bool.false_eq_true, if_false, hvalue,
    Nat.not_lt.mpr hlength]

/-- A digit is none of some letters. -/
theorem not_mem_of_isDigit {c : Char} (h : c.isDigit) {letters : List Char}
    (hletters : letters.all (!·.isDigit)) : c ∉ letters := by
  intro hmem
  have hc := List.all_eq_true.mp hletters c hmem
  rw [h] at hc
  exact Bool.false_ne_true hc

/-- A digit starts no word. -/
theorem ne_of_isDigit {c : Char} (h : c.isDigit) {l : Char}
    (hl : l ∈ ['n', 't', 'f', 'N', 'I', '-']) : l ≠ c := by
  intro hlc
  rw [hlc] at hl
  exact not_mem_of_isDigit h rfl hl

/-- What starts with a digit is a number. -/
theorem readAtom_digit {c : Char} (h : c.isDigit) (rest : List Char) :
    readAtom (c :: rest) = readUnsigned false (c :: rest) := by
  have hother {l : Char} := ne_of_isDigit h (l := l)
  have hminus : c ≠ '-' := (hother (by simp)).symm
  have hwords : ∀ p ∈ words, afterWord? p.1 (c :: rest) = none := by
    simp [words, afterWord?, hother]
  unfold readAtom
  split
  · rename_i found hfound
    obtain ⟨p, hp, hsome⟩ := List.exists_of_findSome?_eq_some hfound
    exact absurd hsome (by simp [hwords p hp])
  · split
    · rename_i heq
      exact absurd (List.cons.inj heq).1 hminus
    · rfl

/-- What starts with a minus and a digit is a negative number. -/
theorem readAtom_minus {c : Char} (h : c.isDigit) (rest : List Char) :
    readAtom ('-' :: c :: rest) = readUnsigned true (c :: rest) := by
  have hother {l : Char} := ne_of_isDigit h (l := l)
  simp [readAtom, words, afterWord?, hother]

/-- The text of an integer: a minus, if it is negative, and its digits. -/
theorem toList_toString_int (n : Int) : (toString n).toList =
    (if 0 ≤ n then [] else ['-']) ++ Nat.toDigits 10 n.natAbs := by
  rw [Int.toString_eq_repr, Int.repr_eq_if]
  by_cases hn : 0 ≤ n
  · rw [if_pos hn, if_pos hn, Nat.toList_repr, List.nil_append]
    congr 1
    omega
  · rw [if_neg hn, if_neg hn, String.toList_append, Nat.toList_repr]
    congr 2
    omega

/-- **A written integer is read back.** -/
theorem readAtom_int {n : Int} (h : Ends rest)
    (hlength : (int n).longestInteger ≤ maxIntegerDigits) :
    readAtom ((toString n).toList ++ rest) = .ok (int n, rest) := by
  obtain ⟨c, tail, htail, hc⟩ := exists_digit n.natAbs
  rw [toList_toString_int]
  by_cases hn : 0 ≤ n
  · have hread := readUnsigned_toDigits false h hlength
    rw [if_pos hn, List.nil_append]
    rw [htail, List.cons_append] at hread ⊢
    rw [readAtom_digit hc, hread, if_neg Bool.false_ne_true, Int.natAbs_of_nonneg hn]
  · have hread := readUnsigned_toDigits true h hlength
    rw [if_neg hn, List.singleton_append, List.cons_append]
    rw [htail, List.cons_append] at hread ⊢
    rw [readAtom_minus hc, hread, if_pos rfl, Int.ofNat_natAbs_of_nonpos (by omega), Int.neg_neg]

/-! ### Words -/

theorem readAtom_null (rest : List Char) : readAtom ("null".toList ++ rest) = .ok (null, rest) := by
  simp [readAtom, words, afterWord?]

theorem readAtom_bool (b : Bool) (rest : List Char) :
    readAtom ((if b then "true" else "false").toList ++ rest) = .ok (bool b, rest) := by
  cases b <;> simp [readAtom, words, afterWord?]

end Json
end TrackingPlan
