import TrackingPlan.Naming.Scope

/-!
# The text of a query

A scope keeps an answer under one text, which joins the name, the form and the suffix that it was
asked with by underscores. Two queries have one text just when the name of one of them goes on over
the suffix of the other. That takes two suffixes: queries with the same one have different texts.

Key definitions: `Scope.Query`, `Scope.Query.key`, `Scope.Query.RunsInto`.
Key theorems: `Scope.Query.key_eq_iff`, `Scope.Query.eq_of_key_eq`.
-/

namespace TrackingPlan
namespace Naming
namespace Scope

/-- All that a safe name is asked for with. -/
structure Query where
  name : String
  form : LetterCase
  suffix : String
  deriving DecidableEq, Repr

/-- The text under which the answer to a query is kept. -/
def Query.key (q : Query) : String := requestKey q.name q.form q.suffix

/-- The name of the second query is that of the first one with its form, and goes on over its
suffix, so that the form of the second query stands inside that suffix. -/
def Query.RunsInto (q q' : Query) : Prop :=
  ∃ middle : String, q'.name = q.name ++ "_" ++ q.form.word ++ middle ∧
    "_" ++ q.suffix = middle ++ "_" ++ q'.form.word ++ "_" ++ q'.suffix

/-- A query that runs on into another one has the longer suffix. -/
theorem Query.RunsInto.length_suffix_lt {q q' : Query} (h : q.RunsInto q') :
    q'.suffix.length < q.suffix.length := by
  obtain ⟨middle, -, hsuffix⟩ := h
  have hlength := congrArg String.length hsuffix
  simp only [String.length_append] at hlength
  have hunderscore : "_".length = 1 := rfl
  omega

theorem Query.not_runsInto_self (q : Query) : ¬ q.RunsInto q :=
  fun h => Nat.lt_irrefl _ h.length_suffix_lt

theorem Query.RunsInto.key_eq {q q' : Query} (h : q.RunsInto q') : q.key = q'.key := by
  obtain ⟨middle, hname, hsuffix⟩ := h
  simp only [key, requestKey, hname, String.append_assoc] at hsuffix ⊢
  rw [hsuffix]

theorem underscore_not_mem_word (form : LetterCase) : '_' ∉ form.word.toList := by
  cases form <;> decide

theorem LetterCase.word_injective : Function.Injective LetterCase.word := by
  intro form form' h
  cases form <;> cases form' <;> first | rfl | exact absurd h (by decide)

/-- Nothing stands before an underscore that comes first. -/
theorem eq_nil_of_underscore {m s rest : List Char} (hm : '_' ∉ m)
    (h : '_' :: s = m ++ '_' :: rest) : m = [] := by
  cases m with
  | nil => rfl
  | cons c m =>
    have hc : '_' = c := (List.cons.inj h).1
    exact absurd (hc ▸ List.mem_cons_self) hm

/-- What stands before an underscore begins with all that stands before the first one. -/
theorem exists_append_of_underscore {w s t rest : List Char} (hw : '_' ∉ w)
    (h : w ++ '_' :: s = t ++ '_' :: rest) : ∃ m, t = w ++ m ∧ '_' :: s = m ++ '_' :: rest := by
  rcases List.append_eq_append_iff.mp h with ⟨m, ht, hs⟩ | ⟨m, rfl, hrest⟩
  · exact ⟨m, ht, hs⟩
  · obtain rfl := eq_nil_of_underscore (fun hm => hw (List.mem_append_right t hm)) hrest
    exact ⟨[], by rw [List.append_nil, List.append_nil], hrest.symm⟩

/-- A text is split in one way only at its first underscore. -/
theorem eq_of_append_underscore {w w' s s' : List Char} (hw : '_' ∉ w) (hw' : '_' ∉ w')
    (h : w ++ '_' :: s = w' ++ '_' :: s') : w = w' ∧ s = s' := by
  obtain ⟨m, rfl, hs⟩ := exists_append_of_underscore hw h
  obtain rfl := eq_nil_of_underscore (fun hm => hw' (List.mem_append_right w hm)) hs
  exact ⟨(List.append_nil w).symm, (List.cons.inj hs).2⟩

theorem Query.toList_key (q : Query) : q.key.toList =
    q.name.toList ++ '_' :: (q.form.word.toList ++ '_' :: q.suffix.toList) := by
  simp [key, requestKey]

/-- A query whose name begins with that of another one, and which has its text, is that query or
runs on into it. -/
theorem Query.eq_or_runsInto {q q' : Query} {t : List Char}
    (hname : q'.name.toList = q.name.toList ++ t)
    (h : '_' :: (q.form.word.toList ++ '_' :: q.suffix.toList) =
      t ++ '_' :: (q'.form.word.toList ++ '_' :: q'.suffix.toList)) : q = q' ∨ q.RunsInto q' := by
  cases t with
  | nil =>
    obtain ⟨hword, hsuffix⟩ := eq_of_append_underscore (underscore_not_mem_word _)
      (underscore_not_mem_word _) (List.cons.inj h).2
    rw [List.append_nil] at hname
    have hform := LetterCase.word_injective (String.toList_injective hword)
    left
    cases q
    cases q'
    congr 1
    · exact String.toList_injective hname.symm
    · exact String.toList_injective hsuffix
  | cons c t =>
    obtain ⟨rfl, hrest⟩ := List.cons.inj h
    obtain ⟨m, rfl, hsuffix⟩ := exists_append_of_underscore (underscore_not_mem_word _) hrest
    refine .inr ⟨String.ofList m, ?_, ?_⟩ <;> apply String.toList_injective
    · simp [hname]
    · simp [hsuffix]

/-- **Two queries have one text** just when the name of one goes on over the suffix of the other. -/
theorem Query.key_eq_iff {q q' : Query} (hne : q ≠ q') :
    q.key = q'.key ↔ q.RunsInto q' ∨ q'.RunsInto q := by
  constructor
  · intro h
    have hlist := congrArg String.toList h
    rw [toList_key, toList_key] at hlist
    rcases List.append_eq_append_iff.mp hlist with ⟨t, hname, hrest⟩ | ⟨t, hname, hrest⟩
    · exact .inl ((eq_or_runsInto hname hrest).resolve_left hne)
    · exact .inr ((eq_or_runsInto hname hrest).resolve_left hne.symm)
  · rintro (h | h)
    · exact h.key_eq
    · exact h.key_eq.symm

/-- **With one suffix for all of them** queries have different texts. -/
theorem Query.eq_of_key_eq {q q' : Query} (hsuffix : q.suffix = q'.suffix) (h : q.key = q'.key) :
    q = q' := by
  by_cases heq : q = q'
  · exact heq
  · rcases (key_eq_iff heq).mp h with hruns | hruns
    · exact absurd (hsuffix ▸ hruns.length_suffix_lt) (Nat.lt_irrefl _)
    · exact absurd (hsuffix ▸ hruns.length_suffix_lt) (Nat.lt_irrefl _)

/-- The underscores between the parts of the two texts may overlap. -/
example : (Query.mk "" .snake "preserve_x").RunsInto ⟨"_snake", .preserve, "x"⟩ :=
  ⟨"", by decide⟩

end Scope
end Naming
end TrackingPlan
