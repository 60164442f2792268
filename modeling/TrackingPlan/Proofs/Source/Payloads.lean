import TrackingPlan.Proofs.Failure
import TrackingPlan.Proofs.Number.Digits
import TrackingPlan.Source.Function

/-!
# The payloads of values

A value has a text when just one of its slots is set, unless what the slot holds is an integer with
too many digits. The texts of several values fail at the first one without a text, and for the same
reason.

Key definitions: `Value.HasOnly`, `Value.setSlots`, `Value.HasLongInteger`, `Value.IsWritable`.
Key theorems: `Value.payloads_eq_singleton`, `Value.literal_eq_error`, `Value.exists_literal_iff`,
`Event.literals_eq_error`, `Event.exists_literals_iff`.
-/

namespace TrackingPlan

open Steps

theorem BuildError.integerText_eq_ok {n : Int} {text : String} : integerText n = .ok text ↔
    digitCount n ≤ maxIntegerDigits ∧ toString n = text := by
  rw [← integerText?_eq_some, integerText]
  cases integerText? n <;> simp

theorem BuildError.integerText_eq_error {n : Int} {e : BuildError} : integerText n = .error e ↔
    maxIntegerDigits < digitCount n ∧ e = .tooManyDigits := by
  rw [← integerText?_eq_none, integerText]
  cases integerText? n <;> simp [@eq_comm _ e]

namespace Value

/-- Is the slot of the value set? -/
def isSet (v : Value) : Slot → Bool
  | .string => v.string.isSome
  | .integer => v.integer.isSome
  | .boolean => v.boolean.isSome
  | .stringEnum => v.stringEnum.isSome

/-- The slot is set, and no other one is. -/
def HasOnly (v : Value) (slot : Slot) : Prop := ∀ other, v.isSet other = true ↔ other = slot

/-- The slots that are set, in their fixed order. -/
def setSlots (v : Value) : List Slot :=
  [Slot.string, .integer, .boolean, .stringEnum].filter v.isSet

/-- The only payload is an integer with too many digits. -/
structure HasLongInteger (v : Value) : Prop where
  only : v.HasOnly .integer
  long : ∃ n, v.integer = some n ∧ maxIntegerDigits < digitCount n

/-- There is just one payload, and it is no integer with too many digits. -/
structure IsWritable (v : Value) : Prop where
  single : ∃ slot, v.HasOnly slot
  short : ¬ v.HasLongInteger

variable {v : Value} {slot : Slot} {e : BuildError}

theorem mem_setSlots : slot ∈ v.setSlots ↔ v.isSet slot = true := by
  rw [setSlots, List.mem_filter]
  refine and_iff_right ?_
  cases slot <;> decide

theorem slots_payloads (v : Value) : v.payloads.map (·.1) = v.setSlots := by
  obtain ⟨parameter, string, integer, boolean, stringEnum⟩ := v
  cases string <;> cases integer <;> cases boolean <;> cases stringEnum <;> rfl

theorem setSlots_eq_singleton : v.setSlots = [slot] ↔ v.HasOnly slot := by
  constructor
  · intro h other
    rw [← mem_setSlots, h, List.mem_singleton]
  · intro h
    have hset : v.isSet = fun other => decide (other = slot) := by
      funext other
      exact Bool.eq_iff_iff.mpr ((h other).trans decide_eq_true_iff.symm)
    rw [setSlots, hset]
    cases slot <;> rfl

/-- Just one slot is set exactly when there is just one payload. -/
theorem payloads_eq_singleton :
    (∃ text, v.payloads = [(slot, text)]) ↔ v.HasOnly slot := by
  rw [← setSlots_eq_singleton, ← slots_payloads]
  constructor
  · rintro ⟨text, h⟩
    rw [h]
    rfl
  · intro h
    obtain ⟨⟨slot', text⟩, hpayloads, hslot⟩ := List.map_eq_singleton_iff.mp h
    exact ⟨text, hpayloads.trans (congrArg (fun s => [(s, text)]) hslot)⟩

/-- The only payload without a text is an integer with too many digits. -/
theorem none_mem_payloads_iff : (slot, none) ∈ v.payloads ↔
    slot = .integer ∧ ∃ n, v.integer = some n ∧ maxIntegerDigits < digitCount n := by
  simp only [payloads, List.mem_append, Option.mem_toList, Option.map_eq_some_iff, Prod.mk.injEq,
    reduceCtorEq, and_false, exists_false, false_or, or_false, integerText?_eq_none]
  constructor
  · rintro ⟨n, hn, rfl, hlong⟩
    exact ⟨rfl, n, hn, hlong⟩
  · rintro ⟨rfl, n, hn, hlong⟩
    exact ⟨n, hn, rfl, hlong⟩

theorem payloads_eq_none_iff : (∃ slot, v.payloads = [(slot, none)]) ↔ v.HasLongInteger := by
  constructor
  · rintro ⟨slot, h⟩
    obtain ⟨rfl, hlong⟩ := none_mem_payloads_iff.mp (h ▸ List.mem_singleton_self (slot, none))
    exact ⟨payloads_eq_singleton.mp ⟨none, h⟩, hlong⟩
  · rintro ⟨honly, hlong⟩
    obtain ⟨text, h⟩ := payloads_eq_singleton.mpr honly
    have hmem : (Slot.integer, none) ∈ v.payloads := none_mem_payloads_iff.mpr ⟨rfl, hlong⟩
    rw [h, List.mem_singleton] at hmem
    exact ⟨.integer, h.trans (congrArg (fun pair => [pair]) hmem.symm)⟩

/-- A string of an enumeration always has a text. -/
theorem payloads_eq_stringEnum :
    (∃ text, v.payloads = [(.stringEnum, some text)]) ↔ v.HasOnly .stringEnum := by
  rw [← payloads_eq_singleton]
  constructor
  · rintro ⟨text, h⟩
    exact ⟨some text, h⟩
  · rintro ⟨_ | text, h⟩
    · obtain ⟨hslot, -⟩ := none_mem_payloads_iff.mp (h ▸ List.mem_singleton_self (_, none))
      exact nomatch hslot
    · exact ⟨text, h⟩

theorem literal_eq_ok {text : String} :
    v.literal = .ok text ↔ ∃ slot, v.payloads = [(slot, some text)] := by
  unfold literal
  split
  · rename_i slot other h
    simp [h]
  · rename_i slot h
    simp [h]
  · rename_i hsome _
    simpa using fun slot h => hsome slot text h

/-- A value has no text when not just one of its slots is set, or when its integer has too many
digits. -/
theorem literal_eq_error : v.literal = .error e ↔
    ((∀ slot, ¬ v.HasOnly slot) ∧ e = .invalidValue v.parameter.name v.setSlots) ∨
      v.HasLongInteger ∧ e = .tooManyDigits := by
  rw [← payloads_eq_none_iff, ← slots_payloads]
  simp only [← payloads_eq_singleton]
  unfold literal
  split
  · rename_i slot text h
    simp [h]
  · rename_i slot h
    simp [h, @eq_comm _ e]
  · rename_i hsome hnone
    have hnot : ∀ slot, ¬ ∃ text, v.payloads = [(slot, text)] := by
      rintro slot ⟨_ | text, h⟩
      · exact hnone slot h
      · exact hsome slot text h
    have hshort : ¬ ∃ slot, v.payloads = [(slot, none)] := fun ⟨slot, h⟩ => hnone slot h
    simp only [hnot, hshort, not_false_eq_true, implies_true, true_and, false_and, or_false,
      Except.error.injEq, @eq_comm _ e]

theorem exists_literal_iff : (∃ text, v.literal = .ok text) ↔ v.IsWritable := by
  rw [← failure?_eq_none, Option.eq_none_iff_forall_ne_some]
  simp only [ne_eq, failure?_eq_some, literal_eq_error, not_or, not_and]
  constructor
  · intro h
    refine ⟨?_, fun hlong => (h _).2 hlong rfl⟩
    by_contra hnone
    exact (h _).1 (not_exists.mp hnone) rfl
  · rintro ⟨⟨slot, honly⟩, hshort⟩ e
    exact ⟨fun hnone => absurd honly (hnone slot), fun hlong => absurd hlong hshort⟩

/-- The same for a value with its text. -/
theorem exists_pair_iff :
    (∃ pair, (v.literal.map fun text => (v, text)) = .ok pair) ↔ v.IsWritable := by
  rw [← exists_literal_iff]
  cases v.literal <;> simp [Except.map]

end Value

namespace Event

variable {event : Event} {e : BuildError}

/-- The texts fail at the first value without one. -/
theorem literals_eq_error : event.literals = .error e ↔
    ∃ before v after, event.values = before ++ v :: after ∧ (∀ w ∈ before, w.IsWritable) ∧
      (((∀ slot, ¬ v.HasOnly slot) ∧ e = .invalidValue v.parameter.name v.setSlots) ∨
        v.HasLongInteger ∧ e = .tooManyDigits) := by
  simp only [literals, mapM_eq_error, map_eq_error, Value.exists_pair_iff, Value.literal_eq_error]
  constructor
  · rintro ⟨before, v, after, hvalues, hfault, hbefore⟩
    exact ⟨before, v, after, hvalues, hbefore, hfault⟩
  · rintro ⟨before, v, after, hvalues, hbefore, hfault⟩
    exact ⟨before, v, after, hvalues, hfault, hbefore⟩

theorem exists_literals_iff :
    (∃ literals, event.literals = .ok literals) ↔ ∀ v ∈ event.values, v.IsWritable := by
  simp only [literals, exists_mapM_iff, Value.exists_pair_iff]

end Event
end TrackingPlan
