import TrackingPlan.Kotlin.Literal
import TrackingPlan.Python.Literal
import TrackingPlan.Template.Literal

/-!
# String literals

The literals of both languages are written character by character, and what is written for a
character is read back as that character. Between the quotes there are only characters that stand
for themselves and escapes, so the quote that follows ends the literal.

For Kotlin the whole text may be gone through once for every character that is escaped. This gives
the same if the backslash comes first, since the other passes write backslashes.

Key definitions: `Text.LiteralRules`, `Text.LiteralRules.IsBody`, `Text.LiteralRules.Spells`,
`Kotlin.decode?`, `Kotlin.literalRules`, `Python.literalRules`, `Kotlin.replacements`.
Key theorems: `Kotlin.replaceAll_eq`, `Kotlin.decode?_escapeChar`, `Python.decode?_escape`,
`Generator.stringLiterals_spell`.
-/

namespace TrackingPlan

/-! ### What stands between the quotes -/

namespace Text

/-- How a language has the text between the quotes of a string literal: the characters that stand
for themselves, the escapes that its literals use, and what the whole stands for. -/
structure LiteralRules where
  plain : Char → Prop
  escape : List Char → Prop
  decode? : List Char → Option (List Char)

namespace LiteralRules

variable {rules : LiteralRules} {written : Char → List Char}

/-- A sequence of characters that stand for themselves and of escapes. -/
inductive IsBody (rules : LiteralRules) : List Char → Prop
  | nil : IsBody rules []
  | plain {c : Char} {rest : List Char} : rules.plain c → IsBody rules rest →
      IsBody rules (c :: rest)
  | escape {e rest : List Char} : rules.escape e → IsBody rules rest → IsBody rules (e ++ rest)

/-- A literal with a text between its quotes that is well-formed and stands for the given one. -/
structure Spells (rules : LiteralRules) (literal : String) (body : List Char) (text : String) :
    Prop where
  quoted : literal.toList = '"' :: body ++ ['"']
  isBody : rules.IsBody body
  decoded : rules.decode? body = some text.toList

theorem isBody_flatMap
    (h : ∀ c, (written c = [c] ∧ rules.plain c) ∨ rules.escape (written c)) (s : List Char) :
    rules.IsBody (s.flatMap written) := by
  induction s with
  | nil => exact .nil
  | cons c s ih =>
    rw [List.flatMap_cons]
    rcases h c with ⟨hwritten, hplain⟩ | hescape
    · rw [hwritten]
      exact .plain hplain ih
    · exact .escape hescape ih

/-- A text that is written character by character is read back, when each character is. -/
theorem decode?_flatMap (rules : LiteralRules) (hnil : rules.decode? [] = some [])
    (hcons : ∀ c rest, rules.decode? (written c ++ rest) = (rules.decode? rest).map (c :: ·))
    (s : List Char) : rules.decode? (s.flatMap written) = some s := by
  induction s with
  | nil => exact hnil
  | cons c s ih => rw [List.flatMap_cons, hcons, ih, Option.map_some]

end LiteralRules
end Text

/-! ### Kotlin -/

namespace Kotlin

/-- The character that a letter after a backslash stands for. -/
def letterEscape? : Char → Option Char
  | 't' => some '\t'
  | 'b' => some '\x08'
  | 'n' => some '\n'
  | 'r' => some '\r'
  | '\'' => some '\''
  | '"' => some '"'
  | '\\' => some '\\'
  | '$' => some '$'
  | _ => none

/-- The text that stands between the quotes of a literal, with its escapes read. Two escapes with
four digits can be the halves of one character. The text ends before a quote or the end of the
line, and a dollar sign can begin a template. -/
def decode? : List Char → Option (List Char)
  | [] => some []
  | '\\' :: 'u' :: a :: b :: c :: d :: rest => do
    let n ← Json.hexUnit? a b c d
    if Json.isHighHalf n then
      match rest with
      | '\\' :: 'u' :: e :: f :: g :: h :: more => do
        return (← Template.pairChar? n (← Json.hexUnit? e f g h)) :: (← decode? more)
      | _ => none
    else return (← Template.charOf? n) :: (← decode? rest)
  | '\\' :: c :: rest => do return (← letterEscape? c) :: (← decode? rest)
  | c :: rest =>
    if c ∈ ['"', '\\', '$', '\n', '\r'] then none else (decode? rest).map (c :: ·)

/-- The literals use the escapes of six characters, and these do not stand for themselves. -/
def literalRules : Text.LiteralRules where
  plain c := c ∉ ['"', '\\', '$', '\n', '\r', '\t']
  escape e := ∃ c ∈ ['"', '\\', '$', 'n', 'r', 't'], e = ['\\', c]
  decode? := decode?

theorem decode?_letter {c x : Char} (h : letterEscape? c = some x) (rest : List Char) :
    decode? ('\\' :: c :: rest) = (decode? rest).map (x :: ·) := by
  have hdigits : c ≠ 'u' := by
    rintro rfl
    exact nomatch h
  rw [decode?]
  · rw [h]
    cases decode? rest <;> rfl
  · exact fun _ _ _ _ _ heq => absurd heq hdigits

theorem decode?_plain {c : Char} (h : literalRules.plain c) (rest : List Char) :
    decode? (c :: rest) = (decode? rest).map (c :: ·) := by
  have hnot : c ∉ ['"', '\\', '$', '\n', '\r'] := fun hmem =>
    h (List.mem_append_left ['\t'] hmem)
  have hback : c ≠ '\\' := by
    rintro rfl
    exact hnot (by decide)
  rw [decode?, if_neg hnot]
  · exact fun _ _ _ _ _ heq => absurd heq hback
  · exact fun _ _ heq => absurd heq hback

/-- A character is written as it is or by one of the escapes. -/
theorem escapeChar_cases (c : Char) :
    (escapeChar c = [c] ∧ literalRules.plain c) ∨
      ∃ letter ∈ ['"', '\\', '$', 'n', 'r', 't'],
        escapeChar c = ['\\', letter] ∧ letterEscape? letter = some c := by
  unfold escapeChar
  split
  case h_7 => exact .inl ⟨rfl, by simp_all [literalRules]⟩
  all_goals exact .inr ⟨_, by decide, rfl, rfl⟩

/-- **What is written for a character is read back.** -/
theorem decode?_escapeChar (c : Char) (rest : List Char) :
    decode? (escapeChar c ++ rest) = (decode? rest).map (c :: ·) := by
  rcases escapeChar_cases c with ⟨hwritten, hplain⟩ | ⟨letter, -, hwritten, hletter⟩
  · rw [hwritten, List.singleton_append, decode?_plain hplain]
  · rw [hwritten]
    exact decode?_letter hletter rest

/-- What is written for the characters that are escaped, in the order in which a text is gone
through. -/
def replacements : List (Char × List Char) := [
  ('\\', ['\\', '\\']), ('"', ['\\', '"']), ('$', ['\\', '$']), ('\n', ['\\', 'n']),
  ('\r', ['\\', 'r']), ('\t', ['\\', 't'])]

/-- The text with one character replaced wherever it stands. -/
def replace (s : List Char) (replacement : Char × List Char) : List Char :=
  s.flatMap fun c => if c = replacement.1 then replacement.2 else [c]

/-- The text after the replacements, one after another. -/
def replaceAll (s : List Char) : List Char := replacements.foldl replace s

theorem replaceAll_flatMap (f : Char → List Char) (s : List Char) :
    replaceAll (s.flatMap f) = s.flatMap fun c => replaceAll (f c) := by
  simp only [replaceAll, replacements, replace, List.foldl_cons, List.foldl_nil,
    List.flatMap_assoc]

theorem replaceAll_singleton (c : Char) : replaceAll [c] = escapeChar c := by
  unfold escapeChar
  split
  case h_7 =>
    simp_all [replaceAll, replacements, replace]
  all_goals decide

/-- **One replacement after another gives what is written character by character.** -/
theorem replaceAll_eq (s : List Char) : replaceAll s = s.flatMap escapeChar := by
  have hsingle := replaceAll_flatMap (fun c => [c]) s
  simpa only [List.flatMap_singleton', replaceAll_singleton] using hsingle

/-- The literal of a text spells it. -/
theorem spells_stringLiteral (s : String) :
    literalRules.Spells (stringLiteral s) (replaceAll s.toList) s := by
  rw [replaceAll_eq]
  refine ⟨?_, ?_, ?_⟩
  · rw [stringLiteral, String.toList_ofList]
  · refine Text.LiteralRules.isBody_flatMap (fun c => ?_) _
    exact (escapeChar_cases c).imp_right fun ⟨letter, hletter, hwritten, _⟩ =>
      ⟨letter, hletter, hwritten⟩
  · exact literalRules.decode?_flatMap rfl decode?_escapeChar _

end Kotlin

/-! ### Python -/

namespace Python

open Template

/-- The literals use seven escapes by a letter, and that by four digits for the other control
characters. The escapes of templates are those of the language. -/
def literalRules : Text.LiteralRules where
  plain c := c ∉ ['"', '\\'] ∧ 0x20 ≤ c.toNat
  escape e := (∃ c ∈ ['"', '\\', 'b', 'f', 'n', 'r', 't'], e = ['\\', c]) ∨
    ∃ n < 0x20, e = '\\' :: 'u' :: Text.hexDigits 4 n
  decode? := Template.decode?

/-- A letter after a backslash is neither one for digits nor one for a name. -/
theorem decode?_letter {c x : Char} (h : letterEscape? c = some x) (rest : List Char) :
    decode? ('\\' :: c :: rest) = (decode? rest).map (x :: ·) := by
  have hplain : c ∉ ['\n', 'N', 'x', 'u', 'U'] ∧ isOctal c = false := by
    unfold letterEscape? at h
    split at h <;> simp_all <;> decide
  obtain ⟨hc, hoctal⟩ := hplain
  simp only [List.mem_cons, List.not_mem_nil, or_false, not_or] at hc
  obtain ⟨hline, hname, hx, hu, hU⟩ := hc
  rw [decode?.eq_def]
  split
  case h_7 heq =>
    obtain ⟨rfl, rfl⟩ := List.cons.inj (List.cons.inj heq).2
    simp [hx, hu, hU, hname, hoctal, h]
  case h_9 =>
    rename_i hother _ heq
    obtain ⟨rfl, rfl⟩ := List.cons.inj heq
    exact (hother _ _ rfl rfl).elim
  all_goals simp_all

theorem decode?_plain {c : Char} (h : c ≠ '\\') (rest : List Char) :
    decode? (c :: rest) = (decode? rest).map (c :: ·) := by
  rw [decode?]
  all_goals simp [h]

theorem hexValue?_hexDigits : ∀ n < 0x20, Text.hexValue? (Text.hexDigits 4 n) = some n := by decide

/-- A control character that is written by its number is read back. -/
theorem decode?_digits {n : Nat} (h : n < 0x20) (rest : List Char) :
    decode? ('\\' :: 'u' :: Text.hexDigits 4 n ++ rest) =
      (decode? rest).map (Char.ofNat n :: ·) := by
  have hvalue := hexValue?_hexDigits n h
  have hhalf : Json.isHighHalf n = false := by
    simp only [Json.isHighHalf, Bool.and_eq_false_iff, decide_eq_false_iff_not]
    omega
  have hchar : charOf? n = some (Char.ofNat n) := by
    have hvalid : n.isValidChar := .inl (by omega)
    rw [charOf?, Char.ofNat, dif_pos hvalid, dif_pos hvalid]
  simp only [Text.hexDigits, List.nil_append, List.cons_append] at hvalue ⊢
  simp only [decode?, hvalue, hhalf, hchar, Option.bind_eq_bind, Option.bind_some]
  cases decode? rest <;> rfl

/-- A character is written as it is, by a letter, or by its number. -/
theorem escape_cases (c : Char) :
    (Text.escape c = [c] ∧ literalRules.plain c) ∨
      (∃ letter ∈ ['"', '\\', 'b', 'f', 'n', 'r', 't'],
        Text.escape c = ['\\', letter] ∧ letterEscape? letter = some c) ∨
      c.toNat < 0x20 ∧ Text.escape c = '\\' :: 'u' :: Text.hexDigits 4 c.toNat := by
  have hdigits : ∀ n < 0x20, ['0', '0', Nat.digitChar (n / 16), Nat.digitChar (n % 16)] =
      Text.hexDigits 4 n := by
    decide
  unfold Text.escape
  split
  case h_8 =>
    split
    · rename_i hcontrol
      exact .inr (.inr ⟨hcontrol, congrArg ('\\' :: 'u' :: ·) (hdigits _ hcontrol)⟩)
    · rename_i hplain
      exact .inl ⟨rfl, by simp_all [literalRules]⟩
  all_goals exact .inr (.inl ⟨_, by decide, rfl, rfl⟩)

/-- **What is written for a character is read back.** -/
theorem decode?_escape (c : Char) (rest : List Char) :
    decode? (Text.escape c ++ rest) = (decode? rest).map (c :: ·) := by
  rcases escape_cases c with ⟨hwritten, hplain, -⟩ | ⟨letter, -, hwritten, hletter⟩ |
    ⟨hcontrol, hwritten⟩
  · rw [hwritten, List.singleton_append, decode?_plain]
    rintro rfl
    exact hplain (by decide)
  · rw [hwritten]
    exact decode?_letter hletter rest
  · rw [hwritten, decode?_digits hcontrol, Char.ofNat_toNat]

/-- The literal of a text spells it. -/
theorem spells_stringLiteral (s : String) :
    literalRules.Spells (stringLiteral s) (s.toList.flatMap Text.escape) s := by
  refine ⟨?_, ?_, ?_⟩
  · rw [stringLiteral, Text.quote, Text.quoted, String.toList_ofList]
  · refine Text.LiteralRules.isBody_flatMap (fun c => ?_) _
    rcases escape_cases c with hplain | ⟨letter, hletter, hwritten, -⟩ | ⟨hcontrol, hwritten⟩
    · exact .inl hplain
    · exact .inr (.inl ⟨letter, hletter, hwritten⟩)
    · exact .inr (.inr ⟨_, hcontrol, hwritten⟩)
  · exact literalRules.decode?_flatMap rfl decode?_escape _

end Python

/-- **The string literals of both languages spell their texts**: between the quotes stand only
escapes and characters that need none, and what they stand for is the text. In Kotlin this is the
text after the replacements. -/
theorem Generator.stringLiterals_spell (s : String) :
    Kotlin.literalRules.Spells (Kotlin.stringLiteral s) (Kotlin.replaceAll s.toList) s ∧
      ∃ body, Python.literalRules.Spells (Python.stringLiteral s) body s :=
  ⟨Kotlin.spells_stringLiteral s, _, Python.spells_stringLiteral s⟩

end TrackingPlan
