import TrackingPlan.Proofs.Json.Stages
import TrackingPlan.Proofs.Json.Strings
import TrackingPlan.Proofs.Steps

/-!
# What reading leaves

The text that is left when something was read is the end of the text that was there. This holds of
the tokens, and of every stage of a list or an object.

Key definition: `Json.LeavesEnd`.
Key theorems: `Json.leavesEnd_readAtom`, `Json.leavesEnd_readThen`, `Json.leavesEnd_read`.
-/

namespace TrackingPlan
namespace Json

variable {α β : Type}

/-! ### Stages -/

/-- What a stage leaves is the end of what it found. -/
def LeavesEnd (p : List Char → Reading α) : Prop := ∀ ⦃s x r⦄, p s = .ok (x, r) → r <:+ s

theorem skipSpace_suffix (s : List Char) : skipSpace s <:+ s := List.dropWhile_suffix isSpace

theorem LeavesEnd.map {p : List Char → Reading α} (hp : LeavesEnd p) (f : α → β) :
    LeavesEnd fun s => (p s).map fun (x, r) => (f x, r) := by
  intro s y r h
  obtain ⟨⟨x, rest⟩, hx, heq⟩ := Steps.map_eq_ok.mp h
  obtain ⟨rfl, rfl⟩ := Prod.mk.inj heq
  exact hp hx

theorem leavesEnd_readThen {p : List Char → Reading α} {q : α → List Char → Reading β}
    (hp : LeavesEnd p) (hq : ∀ x, LeavesEnd (q x)) : LeavesEnd (readThen p q) := by
  intro s y r h
  obtain ⟨⟨x, rest⟩, hx, hy⟩ := Steps.bind_eq_ok.mp h
  exact (hq x hy).trans ((skipSpace_suffix rest).trans (hp hx))

variable {close : Char} {next : List Char → Reading (List α)}

theorem leavesEnd_readMore (h : LeavesEnd next) (x : α) : LeavesEnd (readMore close next x) := by
  intro s xs r hr
  cases s with
  | nil =>
    rw [readMore] at hr
    cases hr
  | cons c s =>
    rw [readMore] at hr
    split at hr
    · cases hr
      exact List.suffix_cons c _
    · split at hr
      · exact ((h.map (x :: ·) hr).trans (skipSpace_suffix s)).trans (List.suffix_cons c s)
      · cases hr

theorem leavesEnd_readContents (h : LeavesEnd next) : LeavesEnd (readContents close next) := by
  intro s xs r hr
  cases s with
  | nil => exact h hr
  | cons c s =>
    rw [readContents] at hr
    split at hr
    · cases hr
      exact List.suffix_cons c _
    · exact h hr

/-! ### Tokens -/

theorem digitRun_suffix (s : List Char) : (Double.digitRun s).2 <:+ s :=
  List.dropWhile_suffix Char.isDigit

theorem wholeDigits_suffix (s : List Char) : (wholeDigits s).2 <:+ s := by
  unfold wholeDigits
  split
  · exact List.suffix_cons _ _
  · exact digitRun_suffix s

theorem fractionDigits?_suffix {s x r : List Char} (h : fractionDigits? s = some (x, r)) :
    r <:+ s := by
  unfold fractionDigits? at h
  split at h
  · rename_i rest
    dsimp only at h
    split at h
    · exact nomatch h
    · cases h
      exact (digitRun_suffix rest).trans (List.suffix_cons _ rest)
  · exact nomatch h

theorem splitSign_suffix (s : List Char) : (Double.splitSign s).2 <:+ s := by
  unfold Double.splitSign
  split
  · exact List.suffix_cons _ _
  · exact List.suffix_cons _ _
  · exact List.suffix_rfl

theorem exponentPart?_suffix {s r : List Char} {e : Int} (h : exponentPart? s = some (e, r)) :
    r <:+ s := by
  unfold exponentPart? at h
  split at h
  · rename_i c rest
    split at h
    · dsimp only at h
      split at h
      · exact nomatch h
      · cases h
        exact ((digitRun_suffix _).trans (splitSign_suffix rest)).trans (List.suffix_cons c rest)
    · exact nomatch h
  · exact nomatch h

/-- A part that may be missing. -/
theorem getD_suffix {γ : Type} {s : List Char} {part : Option (γ × List Char)}
    (h : ∀ x r, part = some (x, r) → r <:+ s) (x : γ) : (part.getD (x, s)).2 <:+ s := by
  cases hpart : part with
  | none => exact List.suffix_rfl
  | some y => exact h y.1 y.2 hpart

theorem leavesEnd_readUnsigned (negative : Bool) : LeavesEnd (readUnsigned negative) := by
  intro s v r h
  have hwhole : (wholeDigits s).2 <:+ s := wholeDigits_suffix s
  have hfraction := getD_suffix (fun _ _ h => fractionDigits?_suffix h) []
    (s := (wholeDigits s).2)
  have hpower := getD_suffix (fun _ _ h => exponentPart?_suffix h) 0
    (s := ((fractionDigits? (wholeDigits s).2).getD ([], (wholeDigits s).2)).2)
  have hrest := (hpower.trans hfraction).trans hwhole
  simp only [readUnsigned] at h
  split at h
  · cases h
  · split at h
    · cases h
      exact hrest
    · split at h
      · cases h
      · cases h
        exact hrest

theorem afterWord?_eq_some {word s r : List Char} : afterWord? word s = some r ↔ s = word ++ r := by
  unfold afterWord?
  by_cases h : word.isPrefixOf s
  · obtain ⟨t, rfl⟩ := List.isPrefixOf_iff_prefix.mp h
    rw [if_pos h, List.drop_left, Option.some.injEq, List.append_cancel_left_eq]
  · rw [if_neg h]
    refine ⟨fun hr => (nomatch hr), fun hs => absurd (List.isPrefixOf_iff_prefix.mpr ?_) h⟩
    exact ⟨r, hs.symm⟩

theorem leavesEnd_readAtom : LeavesEnd readAtom := by
  intro s v r h
  unfold readAtom at h
  split at h
  · rename_i found hfound
    obtain ⟨p, -, hsome⟩ := List.exists_of_findSome?_eq_some hfound
    obtain ⟨rest, hrest, heq⟩ := Option.map_eq_some_iff.mp hsome
    cases h
    obtain ⟨-, rfl⟩ := Prod.mk.inj heq
    exact ⟨p.1, (afterWord?_eq_some.mp hrest).symm⟩
  · split at h
    · rename_i rest _
      exact (leavesEnd_readUnsigned true h).trans (List.suffix_cons _ rest)
    · exact leavesEnd_readUnsigned false h

theorem leavesEnd_readQuoted : LeavesEnd readQuoted := by
  intro s x r h
  unfold readQuoted at h
  split at h
  · rename_i s
    split at h
    · exact nomatch h
    · rename_i y r' hy
      cases h
      exact (readString_suffix hy).trans (List.suffix_cons '"' s)
  · exact nomatch h

theorem leavesEnd_readColon (name : String) : LeavesEnd (readColon name) := by
  intro s x r h
  unfold readColon at h
  split at h
  · cases h
    exact List.suffix_cons ':' r
  · exact nomatch h

theorem leavesEnd_readName : LeavesEnd readName :=
  leavesEnd_readThen leavesEnd_readQuoted leavesEnd_readColon

/-! ### Values -/

theorem leavesEnd_readValue_succ {fuel : Nat}
    (hitems : ∀ depth, LeavesEnd (readItems fuel depth))
    (hmembers : ∀ depth, LeavesEnd (readMembers fuel depth)) (depth : Nat) :
    LeavesEnd (readValue (fuel + 1) depth) := by
  intro s v r h
  cases s using readValue_cases with
  | nil => exact leavesEnd_readAtom (readValue_nil fuel depth ▸ h)
  | string s =>
    rw [readValue_quoted] at h
    exact leavesEnd_readQuoted.map str h
  | list s =>
    cases depth with
    | zero => exact nomatch h
    | succ depth =>
      rw [readValue_list] at h
      have hend := (leavesEnd_readContents (hitems depth)).map arr h
      exact (hend.trans (skipSpace_suffix s)).trans (List.suffix_cons _ s)
  | object s =>
    cases depth with
    | zero => exact nomatch h
    | succ depth =>
      rw [readValue_object] at h
      have hend := (leavesEnd_readContents (hmembers depth)).map (obj ∘ Assoc.ofPairs) h
      exact (hend.trans (skipSpace_suffix s)).trans (List.suffix_cons _ s)
  | atom c s hc => exact leavesEnd_readAtom (readValue_atom hc ▸ h)

/-- **Reading leaves the end of the text.** -/
theorem leavesEnd_read (fuel : Nat) : (∀ depth, LeavesEnd (readValue fuel depth)) ∧
    (∀ depth, LeavesEnd (readItems fuel depth)) ∧ ∀ depth, LeavesEnd (readMembers fuel depth) := by
  induction fuel with
  | zero =>
    refine ⟨fun depth s v r h => ?_, fun depth s vs r h => ?_, fun depth s ms r h => ?_⟩
    · simp [readValue] at h
    · simp [readItems] at h
    · simp [readMembers] at h
  | succ fuel ih =>
    obtain ⟨hvalue, hitems, hmembers⟩ := ih
    refine ⟨leavesEnd_readValue_succ hitems hmembers, fun depth => ?_, fun depth => ?_⟩
    · rw [readItems_succ]
      exact leavesEnd_readThen (hvalue depth) fun v => leavesEnd_readMore (hitems depth) v
    · rw [readMembers_succ]
      exact leavesEnd_readThen leavesEnd_readName fun name =>
        leavesEnd_readThen (hvalue depth) fun v => leavesEnd_readMore (hmembers depth) (name, v)

end Json
end TrackingPlan
