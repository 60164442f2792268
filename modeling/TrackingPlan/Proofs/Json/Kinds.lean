import TrackingPlan.Proofs.Json.Stages
import TrackingPlan.Proofs.Number.Digits
import TrackingPlan.Proofs.Steps

/-!
# What kind of values is read

A kind of values that holds of everything without parts, and of a list or an object when it holds
of the parts, holds of every value that is read. Of integers only those with few enough digits
count. For an object it is enough to look at the table
that is made of its members, in which no name stands twice.

Key definitions: `Json.Yields`, `Json.IsInductive`.
Key theorems: `Json.yields_read`, `Json.IsInductive.of_read`.
-/

namespace TrackingPlan
namespace Json

open Steps

variable {α β : Type} {P : α → Prop} {Q : β → Prop}

/-! ### Stages -/

/-- All that a stage reads is of a kind. -/
def Yields (P : α → Prop) (p : List Char → Reading α) : Prop := ∀ ⦃s x r⦄, p s = .ok (x, r) → P x

theorem Yields.map {p : List Char → Reading α} (hp : Yields P p) {f : α → β}
    (hf : ∀ x, P x → Q (f x)) : Yields Q fun s => (p s).map fun (x, r) => (f x, r) := by
  intro s y r h
  obtain ⟨⟨x, rest⟩, hx, heq⟩ := map_eq_ok.mp h
  obtain ⟨rfl, -⟩ := Prod.mk.inj heq
  exact hf x (hp hx)

theorem yields_readThen {p : List Char → Reading α} {q : α → List Char → Reading β}
    (hp : Yields P p) (hq : ∀ x, P x → Yields Q (q x)) : Yields Q (readThen p q) := by
  intro s y r h
  obtain ⟨⟨x, rest⟩, hx, hy⟩ := bind_eq_ok.mp h
  exact hq x (hp hx) hy

variable {close : Char} {next : List Char → Reading (List α)}

theorem yields_readMore (h : Yields (∀ x ∈ ·, P x) next) {x : α} (hx : P x) :
    Yields (∀ x ∈ ·, P x) (readMore close next x) := by
  intro s xs r hr
  cases s with
  | nil => cases hr
  | cons c s =>
    rw [readMore] at hr
    split at hr
    · obtain ⟨rfl, -⟩ := Prod.mk.inj (Except.ok.inj hr)
      exact List.forall_mem_singleton.mpr hx
    · split at hr
      · refine h.map (f := (x :: ·)) (Q := (∀ y ∈ ·, P y)) (fun xs hxs => ?_) hr
        exact List.forall_mem_cons.mpr ⟨hx, hxs⟩
      · cases hr

theorem yields_readContents (h : Yields (∀ x ∈ ·, P x) next) :
    Yields (∀ x ∈ ·, P x) (readContents close next) := by
  intro s xs r hr
  cases s with
  | nil => exact h hr
  | cons c s =>
    rw [readContents] at hr
    split at hr
    · obtain ⟨rfl, -⟩ := Prod.mk.inj (Except.ok.inj hr)
      exact fun _ hx => absurd hx List.not_mem_nil
    · exact h hr

/-! ### Values -/

/-- A kind of values that is made from the parts upwards. -/
structure IsInductive (P : Json → Prop) : Prop where
  null : P null
  bool : ∀ b, P (bool b)
  int : ∀ {n}, digitCount n ≤ maxIntegerDigits → P (int n)
  real : ∀ x, P (real x)
  str : ∀ s, P (str s)
  arr : ∀ {items}, (∀ v ∈ items, P v) → P (arr items)
  obj : ∀ {members : Assoc Json}, members.keys.Nodup → (∀ p ∈ members, P p.2) → P (obj members)

variable {K : Json → Prop} {fuel : Nat}

theorem isDigit_of_mem_wholeDigits (s : List Char) : ∀ c ∈ (wholeDigits s).1, c.isDigit := by
  unfold wholeDigits
  split
  · exact List.forall_mem_singleton.mpr rfl
  · exact List.all_eq_true.mp List.all_takeWhile

theorem yields_readUnsigned (hK : IsInductive K) (negative : Bool) :
    Yields K (readUnsigned negative) := by
  intro s v r h
  have hdigits := isDigit_of_mem_wholeDigits s
  unfold readUnsigned at h
  dsimp only at h
  split at h
  · exact nomatch h
  · rename_i hne
    split at h
    · obtain ⟨rfl, -⟩ := Prod.mk.inj (Except.ok.inj h)
      exact hK.real _
    · split at h
      · exact nomatch h
      · rename_i hlength
        obtain ⟨rfl, -⟩ := Prod.mk.inj (Except.ok.inj h)
        have hpos : 0 < (wholeDigits s).1.length :=
          List.length_pos_iff.mpr fun hnil => hne (by rw [hnil]; rfl)
        have hcount := length_toDigits_digitsValue_le hdigits hpos
        refine hK.int ?_
        rw [digitCount]
        split
        · rw [Int.natAbs_neg, Int.natAbs_natCast]
          omega
        · rw [Int.natAbs_natCast]
          omega

theorem yields_readAtom (hK : IsInductive K) : Yields K readAtom := by
  intro s v r h
  have hwords : ∀ p ∈ words, K p.2 := by
    simp only [words, List.forall_mem_cons]
    exact ⟨hK.null, hK.bool _, hK.bool _, hK.real _, hK.real _, hK.real _,
      fun _ h => absurd h List.not_mem_nil⟩
  unfold readAtom at h
  split at h
  · rename_i found hfound
    obtain ⟨p, hp, hword⟩ := List.exists_of_findSome?_eq_some hfound
    obtain ⟨r, -, rfl⟩ := Option.map_eq_some_iff.mp hword
    obtain ⟨rfl, -⟩ := Prod.mk.inj (Except.ok.inj h)
    exact hwords p hp
  · split at h
    · exact yields_readUnsigned hK true h
    · exact yields_readUnsigned hK false h

theorem yields_readValue_succ (hK : IsInductive K)
    (hitems : ∀ depth, Yields (∀ v ∈ ·, K v) (readItems fuel depth))
    (hmembers : ∀ depth, Yields (∀ p ∈ ·, K (Prod.snd p)) (readMembers fuel depth))
    (depth : Nat) : Yields K (readValue (fuel + 1) depth) := by
  intro s v r h
  cases s using readValue_cases with
  | nil => exact yields_readAtom hK (readValue_nil fuel depth ▸ h)
  | string s =>
    rw [readValue_quoted] at h
    obtain ⟨⟨x, _⟩, -, heq⟩ := map_eq_ok.mp h
    exact (Prod.mk.inj heq).1 ▸ hK.str x
  | list s =>
    cases depth with
    | zero => exact nomatch h
    | succ depth =>
      rw [readValue_list] at h
      exact (yields_readContents (hitems depth)).map (fun _ hitems => hK.arr hitems) h
  | object s =>
    cases depth with
    | zero => exact nomatch h
    | succ depth =>
      rw [readValue_object] at h
      -- A name that is there twice is one name of the table that is made of the members.
      have htable (members : List (String × Json)) (hvalues : ∀ p ∈ members, K p.2) :
          K ((Json.obj ∘ Assoc.ofPairs) members) := by
        refine hK.obj (Assoc.nodup_update (t := []) List.nodup_nil members) fun p hp => ?_
        exact (Assoc.mem_update hp).elim (hvalues p) fun h => absurd h List.not_mem_nil
      exact (yields_readContents (hmembers depth)).map htable h
  | atom c s hc => exact yields_readAtom hK (readValue_atom hc ▸ h)

/-- **Reading gives values of every kind that is made from the parts upwards.** -/
theorem yields_read (hK : IsInductive K) (fuel : Nat) :
    (∀ depth, Yields K (readValue fuel depth)) ∧
    (∀ depth, Yields (∀ v ∈ ·, K v) (readItems fuel depth)) ∧
    ∀ depth, Yields (∀ p ∈ ·, K (Prod.snd p)) (readMembers fuel depth) := by
  induction fuel with
  | zero =>
    refine ⟨fun depth s v r h => ?_, fun depth s vs r h => ?_, fun depth s ms r h => ?_⟩
    · simp [readValue] at h
    · simp [readItems] at h
    · simp [readMembers] at h
  | succ fuel ih =>
    obtain ⟨hvalue, hitems, hmembers⟩ := ih
    refine ⟨yields_readValue_succ hK hitems hmembers, fun depth => ?_, fun depth => ?_⟩
    · rw [readItems_succ]
      exact yields_readThen (hvalue depth) fun v hv => yields_readMore (hitems depth) hv
    · rw [readMembers_succ]
      have hname : Yields (fun _ => True) readName := fun _ _ _ _ => trivial
      exact yields_readThen hname fun name _ => yields_readThen (hvalue depth) fun v hv =>
        yields_readMore (hmembers depth) hv

variable {depth : Nat} {text : String} {v : Json}

/-- What is read is a value at the start of the text. -/
theorem exists_readValue_of_read (h : read depth text = .ok v) : ∃ rest,
    readValue (2 * text.toList.length + 2) depth (skipSpace text.toList) = .ok (v, rest) := by
  unfold read at h
  dsimp only at h
  split at h
  · rename_i w rest hread
    split at h
    · exact nomatch h
    · split at h
      · exact nomatch h
      · exact ⟨rest, Except.ok.inj h ▸ hread⟩
  · exact nomatch h

/-- **The value of a text is of every such kind.** -/
theorem IsInductive.of_read (hK : IsInductive K) (h : read depth text = .ok v) : K v := by
  obtain ⟨rest, hread⟩ := exists_readValue_of_read h
  exact (yields_read hK _).1 depth hread

end Json
end TrackingPlan
