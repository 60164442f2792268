import Mathlib.Data.List.DropRight
import TrackingPlan.Proofs.Naming.Query
import TrackingPlan.Proofs.Naming.Scope

/-!
# What a scope remembers

Where two queries of a stretch have one text, the second of them gets the answer of the first. A
scope that keeps its answers under the whole query answers alike up to there, and then gives a name
that is not taken.

Key definitions: `Scope.Call`, `Scope.Exact`, `Scope.Remembers`, `Scope.Exact.Follows`.
Key theorems: `Scope.Remembers.perform`, `Scope.Exact.Follows.perform`,
`Scope.answersTo_exact_iff`.
-/

namespace TrackingPlan
namespace Naming
namespace Scope

/-- The name that a query is given when it is new to a scope. -/
def nameFor (s : Scope) (q : Query) : String := s.resolve (safeForm q.name q.form) q.suffix

/-- What a scope can be called for, with any suffix for a name in conflict. -/
inductive Call where
  | ask (query : Query)
  | reserve (name : String)
  | clear
  deriving DecidableEq, Repr

/-- The answer to a call, if it asks for one, and the scope after it. -/
def perform (s : Scope) : Call → Option String × Scope
  | .ask q =>
    let (answer, s) := s.sanitize q.name q.form q.suffix
    (some answer, s)
  | .reserve name => (none, s.reserve name)
  | .clear => (none, s.clear)

/-- The answers to one call after another. -/
def answersTo (s : Scope) : List Call → List (Option String)
  | [] => []
  | call :: rest => (s.perform call).1 :: answersTo (s.perform call).2 rest

/-- The scope after one call after another. -/
def after (s : Scope) (calls : List Call) : Scope := calls.foldl (fun s call => (s.perform call).2) s

/-- A scope that keeps every answer under the whole query. -/
structure Exact where
  keywords : List String := []
  builtins : List String := []
  answers : List (Query × String) := []
  used : List String := []
  deriving DecidableEq, Repr

namespace Exact

/-- The scope with the same words and taken names, and no answers. -/
def names (e : Exact) : Scope where
  keywords := e.keywords
  builtins := e.builtins
  used := e.used

/-- The scope with the answer to a query that is new to it. -/
def record (e : Exact) (q : Query) (answer : String) : Exact :=
  { e with answers := (q, answer) :: e.answers, used := answer :: e.used }

/-- The answer to a call, if it asks for one, and the scope after it. -/
def perform (e : Exact) : Call → Option String × Exact
  | .ask q =>
    match e.answers.lookup q with
    | some answer => (some answer, e)
    | none =>
      let answer := e.names.nameFor q
      (some answer, e.record q answer)
  | .reserve name => (none, { e with used := name :: e.used })
  | .clear => (none, { e with answers := [], used := [] })

/-- The answers to one call after another. -/
def answersTo (e : Exact) : List Call → List (Option String)
  | [] => []
  | call :: rest => (e.perform call).1 :: answersTo (e.perform call).2 rest

end Exact

/-! ### What is remembered -/

variable {s : Scope} {calls : List Call} {call : Call} {q : Query}

theorem perform_known {answer : String} (h : s.answers.get? q.key = some answer) :
    s.perform (.ask q) = (some answer, s) := by
  have hkept : s.answers.get? (requestKey q.name q.form q.suffix) = some answer := h
  simp only [perform, sanitize, hkept]

theorem perform_new (h : s.answers.get? q.key = none) :
    s.perform (.ask q) = (some (s.nameFor q), s.record q.key (s.nameFor q)) := by
  have hnone : s.answers.get? (requestKey q.name q.form q.suffix) = none := h
  simp only [perform, sanitize, hnone]
  rfl

/-- The scope remembers the texts of the queries among some calls, and no others. -/
def Remembers (s : Scope) (calls : List Call) : Prop :=
  ∀ key, (∃ answer, s.answers.get? key = some answer) ↔ ∃ q, .ask q ∈ calls ∧ q.key = key

theorem remembers_clear (s : Scope) : s.clear.Remembers [] := fun _ =>
  ⟨fun ⟨_, h⟩ => (nomatch h), fun ⟨_, h, _⟩ => absurd h List.not_mem_nil⟩

/-- **A call other than a clearing adds its own text**, if it is a query. -/
theorem Remembers.perform (h : s.Remembers calls) (hcall : call ≠ .clear) :
    (s.perform call).2.Remembers (calls ++ [call]) := by
  intro key
  simp only [List.mem_append, List.mem_singleton]
  cases call with
  | clear => exact absurd rfl hcall
  | reserve name =>
    simp only [reduceCtorEq, or_false]
    exact h key
  | ask q =>
    simp only [Call.ask.injEq, or_and_right, exists_or, exists_eq_left, ← h key]
    cases hkept : s.answers.get? q.key with
    | some answer =>
      rw [perform_known hkept]
      exact ⟨.inl, fun hkey => hkey.elim id fun hkey => ⟨answer, hkey ▸ hkept⟩⟩
    | none =>
      rw [perform_new hkept, record, Assoc.get?_set]
      by_cases hkey : key = q.key
      · simp [hkey]
      · rw [if_neg hkey, or_iff_left fun h => hkey h.symm]

/-! ### Answers by the whole query -/

/-- Different queries among the calls have different texts. -/
def TextsApart (calls : List Call) : Prop :=
  ∀ q q', .ask q ∈ calls → .ask q' ∈ calls → q.key = q'.key → q = q'

theorem textsApart_iff : TextsApart calls ↔
    ∀ q q', .ask q ∈ calls → .ask q' ∈ calls → ¬ q.RunsInto q' := by
  refine ⟨fun h q q' hq hq' hruns => ?_, fun h q q' hq hq' hkey => ?_⟩
  · obtain rfl := h q q' hq hq' hruns.key_eq
    exact q.not_runsInto_self hruns
  · by_contra hne
    rcases (Query.key_eq_iff hne).mp hkey with hruns | hruns
    · exact h q q' hq hq' hruns
    · exact h q' q hq' hq hruns

theorem textsApart_nil : TextsApart [] := fun _ _ h => absurd h List.not_mem_nil

theorem TextsApart.of_append {more : List Call} (h : TextsApart (calls ++ more)) :
    TextsApart calls := fun q q' hq hq' =>
  h q q' (List.mem_append_left more hq) (List.mem_append_left more hq')

/-- A query that has the text of another one among the calls. -/
theorem TextsApart.exists_of_not_append (h : TextsApart calls)
    (hnot : ¬ TextsApart (calls ++ [call])) :
    ∃ q q', call = .ask q ∧ .ask q' ∈ calls ∧ q'.key = q.key ∧ .ask q ∉ calls := by
  by_contra hnone
  push Not at hnone
  refine hnot fun q q' hq hq' hkey => ?_
  rw [List.mem_append, List.mem_singleton] at hq hq'
  rcases hq with hq | rfl
  · rcases hq' with hq' | rfl
    · exact h q q' hq hq' hkey
    · exact h q q' hq (hnone q' q rfl hq hkey) hkey
  · rcases hq' with hq' | hq'
    · exact h q q' (hnone q q' rfl hq' hkey.symm) hq' hkey
    · exact Call.ask.inj hq'.symm

namespace Exact

variable {e : Exact}

/-- The two scopes have the same words and taken names, and since the last clearing they have given
the same answers to some calls and to no others. -/
structure Follows (e : Exact) (s : Scope) (calls : List Call) : Prop where
  keywords : e.keywords = s.keywords
  builtins : e.builtins = s.builtins
  used : e.used = s.used
  remembers : s.Remembers calls
  taken : ∀ {key answer}, s.answers.get? key = some answer → answer ∈ s.used
  answers : ∀ {q}, .ask q ∈ calls → e.answers.lookup q = s.answers.get? q.key
  others : ∀ {q}, .ask q ∉ calls → e.answers.lookup q = none

theorem Follows.clear (h : e.Follows s calls) : (e.perform .clear).2.Follows s.clear [] where
  keywords := h.keywords
  builtins := h.builtins
  used := rfl
  remembers := remembers_clear s
  taken h := nomatch h
  answers h := absurd h List.not_mem_nil
  others _ := rfl

theorem Follows.nameFor_eq (h : e.Follows s calls) (q : Query) :
    e.names.nameFor q = s.nameFor q := by
  unfold nameFor resolve names
  simp only [h.keywords, h.builtins, h.used]

theorem Follows.reserve (h : e.Follows s calls) (name : String) :
    (e.perform (.reserve name)).2.Follows (s.reserve name) (calls ++ [.reserve name]) where
  keywords := h.keywords
  builtins := h.builtins
  used := congrArg (name :: ·) h.used
  remembers := h.remembers.perform (show Call.reserve name ≠ .clear from Call.noConfusion)
  taken ha := List.mem_cons_of_mem name (h.taken ha)
  answers hq := h.answers (by simpa using hq)
  others hq := h.others (by simpa using hq)

/-- A query that was asked before is answered from memory. -/
theorem Follows.known (h : e.Follows s calls) (hasked : .ask q ∈ calls) :
    e.perform (.ask q) = ((s.perform (.ask q)).1, e) ∧ (s.perform (.ask q)).2 = s := by
  obtain ⟨answer, hanswer⟩ := (h.remembers q.key).mpr ⟨q, hasked, rfl⟩
  have hexact : e.answers.lookup q = some answer := (h.answers hasked).trans hanswer
  rw [perform_known hanswer]
  simp only [Exact.perform, hexact, and_self]

theorem Follows.perform_new (h : e.Follows s calls) (hnew : .ask q ∉ calls) :
    e.perform (.ask q) = (some (s.nameFor q), e.record q (s.nameFor q)) := by
  simp only [Exact.perform, h.others hnew, h.nameFor_eq]

theorem Follows.record (h : e.Follows s calls) (hnone : s.answers.get? q.key = none)
    {answer : String} (hremembers : (s.record q.key answer).Remembers (calls ++ [.ask q])) :
    (e.record q answer).Follows (s.record q.key answer) (calls ++ [.ask q]) where
  keywords := h.keywords
  builtins := h.builtins
  used := congrArg (answer :: ·) h.used
  remembers := hremembers
  taken {key known} hknown := by
    rw [Scope.record, Assoc.get?_set] at hknown
    split at hknown
    · exact Option.some.inj hknown ▸ List.mem_cons_self
    · exact List.mem_cons_of_mem answer (h.taken hknown)
  answers {q'} hq' := by
    rw [Exact.record, Scope.record, Assoc.get?_set, List.lookup_cons]
    by_cases heq : q' = q
    · simp [heq]
    · have hasked : .ask q' ∈ calls := by simpa [heq] using hq'
      have hkey : q'.key ≠ q.key := by
        obtain ⟨known, hknown⟩ := (h.remembers q'.key).mpr ⟨q', hasked, rfl⟩
        intro hkey
        rw [hkey, hnone] at hknown
        exact Option.some_ne_none known hknown.symm
      rw [beq_eq_false_iff_ne.mpr heq, if_neg hkey, h.answers hasked]
  others {q'} hq' := by
    rw [List.mem_append, List.mem_singleton, not_or] at hq'
    have hne : q' ≠ q := fun heq => hq'.2 (congrArg Call.ask heq)
    rw [Exact.record, List.lookup_cons, beq_eq_false_iff_ne.mpr hne, h.others hq'.1]

/-- **A call whose text is not that of another query is answered alike.** -/
theorem Follows.perform (h : e.Follows s calls) (hcall : call ≠ .clear)
    (hapart : TextsApart (calls ++ [call])) : (e.perform call).1 = (s.perform call).1 ∧
      (e.perform call).2.Follows (s.perform call).2 (calls ++ [call]) := by
  cases call with
  | clear => exact absurd rfl hcall
  | reserve name => exact ⟨rfl, h.reserve name⟩
  | ask q =>
    have hremembers := h.remembers.perform hcall
    by_cases hasked : .ask q ∈ calls
    · have hmem {q'} : .ask q' ∈ calls ++ [.ask q] ↔ .ask q' ∈ calls := by
        rw [List.mem_append, List.mem_singleton, or_iff_left_of_imp fun heq => heq ▸ hasked]
      obtain ⟨hexact, hscope⟩ := h.known hasked
      rw [hscope] at hremembers ⊢
      rw [hexact]
      exact ⟨rfl, h.keywords, h.builtins, h.used, hremembers, h.taken,
        fun hq => h.answers (hmem.mp hq), fun hq => h.others fun hq' => hq (hmem.mpr hq')⟩
    · have hnone : s.answers.get? q.key = none := by
        by_contra hsome
        obtain ⟨q', hq', hkey⟩ := (h.remembers q.key).mp (Option.ne_none_iff_exists'.mp hsome)
        have heq : q' = q := hapart q' q (List.mem_append_left _ hq')
          (List.mem_append_right _ List.mem_cons_self) hkey
        exact hasked (heq ▸ hq')
      rw [Scope.perform_new hnone] at hremembers ⊢
      rw [h.perform_new hasked]
      exact ⟨rfl, h.record hnone hremembers⟩

/-- A query that has the text of another one is given its answer by one scope, and by the other
scope a name that is not taken. -/
theorem Follows.perform_ne (h : e.Follows s calls) (hapart : TextsApart calls)
    (hnot : ¬ TextsApart (calls ++ [call])) : (e.perform call).1 ≠ (s.perform call).1 := by
  obtain ⟨q, q', rfl, hasked, hkey, hnew⟩ := hapart.exists_of_not_append hnot
  obtain ⟨answer, hanswer⟩ := (h.remembers q.key).mpr ⟨q', hasked, hkey⟩
  rw [h.perform_new hnew, perform_known hanswer]
  intro heq
  exact s.resolve_not_mem _ _ (Option.some.inj heq ▸ h.taken hanswer)

end Exact

/-! ### Stretches -/

/-- The parts of some calls before, between and after the clearings. -/
def stretchesOf (calls : List Call) : List (List Call) := calls.splitOn .clear

/-- Calls without a clearing begin a stretch. -/
theorem exists_stretch (hplain : .clear ∉ calls) (rest : List Call) :
    ∃ more, calls ++ more ∈ stretchesOf (calls ++ rest) := by
  by_cases hclear : .clear ∈ rest
  · obtain ⟨more, later, rfl, hmore⟩ := List.eq_append_cons_of_mem hclear
    have hboth : .clear ∉ calls ++ more := by simp [hplain, hmore]
    refine ⟨more, ?_⟩
    rw [stretchesOf, ← List.append_assoc, List.splitOn_append_cons_self_of_not_mem hboth]
    exact List.mem_cons_self
  · have hboth : .clear ∉ calls ++ rest := by simp [hplain, hclear]
    refine ⟨rest, ?_⟩
    rw [stretchesOf, List.splitOn_eq_singleton hboth]
    exact List.mem_singleton_self _

/-- Scopes that follow one another answer alike from then on just when no stretch has different
queries with one text. -/
theorem Exact.Follows.answersTo_eq_iff : ∀ (rest : List Call) {e : Exact} {s : Scope}
    {calls : List Call}, e.Follows s calls → TextsApart calls → .clear ∉ calls →
    (s.answersTo rest = e.answersTo rest ↔
      ∀ stretch ∈ stretchesOf (calls ++ rest), TextsApart stretch)
  | [], _, _, calls, _, hapart, hplain => by
    rw [List.append_nil, stretchesOf, List.splitOn_eq_singleton hplain]
    simp [Scope.answersTo, Exact.answersTo, hapart]
  | call :: rest, e, s, calls, h, hapart, hplain => by
    rw [Scope.answersTo, Exact.answersTo, List.cons.injEq]
    by_cases hcall : call = .clear
    · subst hcall
      have hlater := answersTo_eq_iff rest h.clear textsApart_nil List.not_mem_nil
      rw [stretchesOf, List.splitOn_append_cons_self_of_not_mem hplain, List.forall_mem_cons]
      exact and_congr ⟨fun _ => hapart, fun _ => rfl⟩ hlater
    · have hassoc : calls ++ call :: rest = calls ++ [call] ++ rest := by simp
      have hplain' : .clear ∉ calls ++ [call] := by simp [hplain, Ne.symm hcall]
      by_cases hnext : TextsApart (calls ++ [call])
      · obtain ⟨hanswer, hfollows⟩ := h.perform hcall hnext
        rw [hassoc, ← answersTo_eq_iff rest hfollows hnext hplain']
        exact and_iff_right hanswer.symm
      · refine iff_of_false (fun hboth => h.perform_ne hapart hnext hboth.1.symm) fun hall => ?_
        obtain ⟨more, hmore⟩ := exists_stretch hplain' rest
        exact hnext (hall _ (hassoc ▸ hmore)).of_append

/-- What is remembered at the end are the queries since the last clearing. -/
theorem remembers_after (s : Scope) (calls : List Call) :
    (s.clear.after calls).Remembers (calls.rtakeWhile (· ≠ .clear)) := by
  induction calls using List.reverseRecOn with
  | nil => exact remembers_clear s
  | append_singleton calls call ih =>
    rw [after, List.foldl_append]
    by_cases hcall : call = .clear
    · rw [List.rtakeWhile_concat_neg _ _ _ (by simp [hcall]), hcall]
      exact remembers_clear _
    · rw [List.rtakeWhile_concat_pos _ _ _ (by simp [hcall])]
      exact ih.perform hcall

theorem Exact.follows_new (keywords builtins : List String) :
    Follows { keywords, builtins } { keywords, builtins } [] where
  keywords := rfl
  builtins := rfl
  used := rfl
  remembers := remembers_clear { keywords, builtins }
  taken h := nomatch h
  answers h := absurd h List.not_mem_nil
  others _ := rfl

/-- **A scope answers like one that keeps its answers under the whole query** if and only if no
stretch has a query whose name goes on over the suffix of another one. It answers a query from
memory if and only if that query, or one that has its text in this way, was asked since the last
clearing. -/
theorem answersTo_exact_iff (keywords builtins : List String) (calls : List Call) :
    (answersTo { keywords, builtins } calls = Exact.answersTo { keywords, builtins } calls ↔
      ∀ stretch ∈ stretchesOf calls, ∀ q q', .ask q ∈ stretch → .ask q' ∈ stretch →
        ¬ q.RunsInto q') ∧
    ∀ q : Query,
      (∃ answer, (after { keywords, builtins } calls).answers.get? q.key = some answer) ↔
        ∃ q', .ask q' ∈ calls.rtakeWhile (· ≠ .clear) ∧
          (q' = q ∨ q'.RunsInto q ∨ q.RunsInto q') := by
  constructor
  · simp only [← textsApart_iff]
    exact (Exact.follows_new keywords builtins).answersTo_eq_iff calls textsApart_nil
      List.not_mem_nil
  · intro q
    have hkey (q' : Query) : q'.key = q.key ↔ q' = q ∨ q'.RunsInto q ∨ q.RunsInto q' := by
      by_cases heq : q' = q
      · simp [heq]
      · rw [Query.key_eq_iff heq, or_iff_right heq]
    simp only [← hkey]
    exact remembers_after { keywords, builtins } calls q.key

/-- The second name is given the answer of the first one, which is none of its own. -/
theorem answersTo_overlapping :
    let calls := [.ask ⟨"a", .snake, "b_snake_c"⟩, .ask ⟨"a_snake_b", .snake, "c"⟩]
    answersTo {} calls = [some "a", some "a"] ∧
      Exact.answersTo {} calls = [some "a", some "a_snake_b"] := by
  decide +kernel

end Scope
end Naming
end TrackingPlan
