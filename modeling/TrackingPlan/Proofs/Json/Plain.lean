import TrackingPlan.Json.Printer
import TrackingPlan.Proofs.Json.Strings
import TrackingPlan.Proofs.Json.Tokens

/-!
# Plain values

Values without doubles, and with different names in each object. In the text of such a value no
escape is half of a surrogate pair: only quotes, backslashes and control characters are escaped.

Key definitions: `Json.isPlain`, `Json.IsWhole`.
Key theorems: `Json.isWhole_escape`, `Json.hasLoneHalf_pretty`.
-/

namespace TrackingPlan
namespace Json

mutual

/-- Is the value built without doubles, from objects whose names all differ? -/
def isPlain : Json → Bool
  | real _ => false
  | arr items => areItemsPlain items
  | obj members => decide (Assoc.keys members).Nodup && areMembersPlain members
  | _ => true

/-- Are all items built so? -/
def areItemsPlain : List Json → Bool
  | [] => true
  | x :: rest => isPlain x && areItemsPlain rest

/-- Are the values of all members built so? -/
def areMembersPlain : List (String × Json) → Bool
  | [] => true
  | (_, x) :: rest => isPlain x && areMembersPlain rest

end

/-! ### Texts without a lone half -/

/-- A part of a text that has no lone half and leaves none for what follows. -/
def IsWhole (s : List Char) : Prop := ∀ rest, hasLoneHalf (s ++ rest) = hasLoneHalf rest

theorem isWhole_nil : IsWhole [] := fun _ => rfl

theorem IsWhole.append {s t : List Char} (hs : IsWhole s) (ht : IsWhole t) : IsWhole (s ++ t) := by
  intro rest
  rw [List.append_assoc, hs, ht]

/-- A text is whole where nothing is escaped. -/
theorem isWhole_of_unescaped {s : List Char} (h : '\\' ∉ s) : IsWhole s := by
  induction s with
  | nil => exact isWhole_nil
  | cons c s ih =>
    rw [List.mem_cons, not_or] at h
    intro rest
    rw [List.cons_append, hasLoneHalf_plain (Ne.symm h.1), ih h.2]

/-- **A written character is whole.** -/
theorem isWhole_escape (c : Char) : IsWhole (Text.escape c) := by
  intro rest
  unfold Text.escape
  split
  case h_8 hback _ _ _ _ _ =>
    split
    · rename_i hcontrol
      have hunit := hexUnit?_control hcontrol
      have hhigh : isHighHalf c.toNat = false := by simp [isHighHalf]; omega
      have hlow : isLowHalf c.toNat = false := by simp [isLowHalf]; omega
      rw [List.cons_append, List.cons_append, hasLoneHalf_digits]
      simp only [List.cons_append, List.nil_append, readUnit?, hunit, Option.map_some, hhigh, hlow,
        Bool.false_eq_true, if_false, Bool.false_or]
    · exact hasLoneHalf_plain hback rest
  all_goals exact hasLoneHalf_letter (by decide) rest

theorem isWhole_quote (s : String) : IsWhole (Text.quote s).toList := by
  have hbody : ∀ s : List Char, IsWhole (s.flatMap Text.escape) := by
    intro s
    induction s with
    | nil => exact isWhole_nil
    | cons c s ih => exact (isWhole_escape c).append ih
  have hmark : IsWhole ['"'] := isWhole_of_unescaped (by decide)
  rw [Text.quote, Text.quoted, String.toList_ofList]
  exact (hmark.append (hbody s.toList)).append hmark

theorem isWhole_newLine (depth : Nat) : IsWhole (newLine depth).toList := by
  refine isWhole_of_unescaped fun hmem => ?_
  rw [newLine, String.toList_ofList, List.mem_cons, List.mem_replicate] at hmem
  rcases hmem with h | ⟨-, h⟩ <;> exact absurd h (by decide)

theorem isWhole_toString (n : Int) : IsWhole (toString n).toList := by
  refine isWhole_of_unescaped fun hmem => ?_
  rw [toList_toString_int, List.mem_append] at hmem
  rcases hmem with hsign | hdigit
  · split at hsign
    · exact absurd hsign List.not_mem_nil
    · exact absurd (List.mem_singleton.mp hsign) (by decide)
  · exact absurd (Nat.isDigit_of_mem_toDigits (by omega) (by omega) hdigit) (by decide)

/-- What stands between two items. -/
theorem isWhole_separator (last : Bool) : IsWhole (if last then "" else ",").toList := by
  cases last <;> exact isWhole_of_unescaped (by decide)

mutual

theorem isWhole_prettyAt (depth : Nat) : ∀ {v : Json}, v.isPlain → IsWhole (prettyAt depth v).toList
  | null, _ => isWhole_of_unescaped (by rw [prettyAt, scalarText]; decide)
  | bool b, _ => isWhole_of_unescaped (by rw [prettyAt, scalarText]; cases b <;> decide)
  | int n, _ => by
    rw [prettyAt, scalarText]
    exact isWhole_toString n
  | real _, h => absurd h (by simp [isPlain])
  | str s, _ => by
    rw [prettyAt, scalarText]
    exact isWhole_quote s
  | arr items, h => by
    rw [prettyAt]
    split
    · exact isWhole_of_unescaped (by decide)
    · simp only [String.toList_append]
      have hopen : IsWhole "[".toList := isWhole_of_unescaped (by decide)
      have hclose : IsWhole "]".toList := isWhole_of_unescaped (by decide)
      exact ((hopen.append (isWhole_prettyItems (depth + 1) h)).append (isWhole_newLine _)).append
        hclose
  | obj members, h => by
    rw [isPlain, Bool.and_eq_true] at h
    rw [prettyAt]
    split
    · exact isWhole_of_unescaped (by decide)
    · simp only [String.toList_append]
      have hopen : IsWhole "\x7b".toList := isWhole_of_unescaped (by decide)
      have hclose : IsWhole "\x7d".toList := isWhole_of_unescaped (by decide)
      exact ((hopen.append (isWhole_prettyMembers (depth + 1) h.2)).append
        (isWhole_newLine _)).append hclose

theorem isWhole_prettyItems (depth : Nat) :
    ∀ {items : List Json}, areItemsPlain items → IsWhole (prettyItems depth items).toList
  | [], _ => isWhole_nil
  | x :: rest, h => by
    rw [areItemsPlain, Bool.and_eq_true] at h
    rw [prettyItems]
    simp only [String.toList_append]
    exact (((isWhole_newLine depth).append (isWhole_prettyAt depth h.1)).append
      (isWhole_separator _)).append (isWhole_prettyItems depth h.2)

theorem isWhole_prettyMembers (depth : Nat) : ∀ {members : List (String × Json)},
    areMembersPlain members → IsWhole (prettyMembers depth members).toList
  | [], _ => isWhole_nil
  | (k, x) :: rest, h => by
    rw [areMembersPlain, Bool.and_eq_true] at h
    have hcolon : IsWhole ": ".toList := isWhole_of_unescaped (by decide)
    rw [prettyMembers]
    simp only [String.toList_append]
    exact (((((isWhole_newLine depth).append (isWhole_quote k)).append hcolon).append
      (isWhole_prettyAt depth h.1)).append (isWhole_separator _)).append
        (isWhole_prettyMembers depth h.2)

end

/-- **In the text of a plain value no half of a surrogate pair stands alone.** -/
theorem hasLoneHalf_pretty {v : Json} (h : v.isPlain) : hasLoneHalf v.pretty.toList = false := by
  have hwhole := isWhole_prettyAt 0 h []
  rwa [List.append_nil] at hwhole

end Json
end TrackingPlan
