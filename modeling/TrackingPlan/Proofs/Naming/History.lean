import TrackingPlan.Proofs.Naming.Namespace

/-!
# The history of a scope

A scope is asked for safe names, told of names that are taken elsewhere, and cleared, in any
order. Its history lists what happened; between two clearings the history is a stretch. In a
stretch one request has one answer, different requests have different answers, and an answer that
is given for the first time is none of the names that were taken before it.

The invariant is `Recalls`: since the last clearing the scope remembers exactly the answers of the
stretch, and every name of the stretch is taken.

Key definitions: `Scope.Request`, `Scope.Turn`, `Scope.history`, `Scope.stretches`,
`Scope.KeepsApart`, `Scope.Recalls`.
Key theorems: `Scope.Recalls.serve`, `Scope.keepsApart_append`, `Scope.history_keepsApart`.
-/

namespace TrackingPlan
namespace Naming
namespace Scope

/-- What a scope can be asked for; a name in conflict gets the usual suffix. -/
inductive Request where
  | sanitize (name : String) (form : LetterCase)
  | reserve (name : String)
  | clear
  deriving DecidableEq, Repr

/-- What has happened at a request. -/
inductive Turn where
  | answered (name : String) (form : LetterCase) (answer : String)
  | reserved (name : String)
  | cleared
  deriving DecidableEq, Repr

/-- What happens at a request, and the scope after it. -/
def serve (s : Scope) : Request → Turn × Scope
  | .sanitize name form =>
    let (answer, s) := s.sanitize name form
    (.answered name form answer, s)
  | .reserve name => (.reserved name, s.reserve name)
  | .clear => (.cleared, s.clear)

/-- What happens at one request after another. -/
def history (s : Scope) : List Request → List Turn
  | [] => []
  | r :: rest => (s.serve r).1 :: history (s.serve r).2 rest

/-- The scope after one request after another. -/
def serveAll (s : Scope) (requests : List Request) : Scope :=
  requests.foldl (fun s r => (s.serve r).2) s

/-- The parts of a history before, between and after its clearings. -/
def stretches (turns : List Turn) : List (List Turn) := turns.splitOn .cleared

/-- The names of a stretch are kept apart: one request has one answer, different requests have
different answers, and an answer that was not given before is none of the names reserved before. -/
structure KeepsApart (stretch : List Turn) : Prop where
  stable : ∀ {name form answer answer'}, .answered name form answer ∈ stretch →
    .answered name form answer' ∈ stretch → answer = answer'
  injective : ∀ {name name' form form' answer}, .answered name form answer ∈ stretch →
    .answered name' form' answer ∈ stretch → name = name' ∧ form = form'
  fresh : ∀ {earlier later name form answer},
    stretch = earlier ++ .answered name form answer :: later →
    (∀ name' form', .answered name' form' answer ∉ earlier) → .reserved answer ∉ earlier

/-- The scope remembers the answers of a stretch and no others, and its names are taken. -/
structure Recalls (s : Scope) (stretch : List Turn) : Prop where
  sound : s.Sound
  answers : ∀ {name form answer},
    s.Knows form name answer ↔ .answered name form answer ∈ stretch
  reserved : ∀ {name}, .reserved name ∈ stretch → name ∈ s.used

variable {s : Scope} {stretch : List Turn} {name answer : String} {form : LetterCase}

theorem Recalls.of_clear (s : Scope) : s.clear.Recalls [] where
  sound := .of_no_answers rfl
  answers {name form answer} := by
    have hnone : ¬ s.clear.Knows form name answer := fun h => nomatch h
    simp [hnone]
  reserved h := absurd h List.not_mem_nil

/-! ### One request -/

/-- An answer from memory was given before. -/
theorem Recalls.append_known (h : s.Recalls stretch) (hknows : s.Knows form name answer) :
    s.Recalls (stretch ++ [.answered name form answer]) where
  sound := h.sound
  answers {name' form' answer'} := by
    rw [h.answers, List.mem_append, List.mem_singleton]
    refine ⟨Or.inl, ?_⟩
    rintro (hold | hnew)
    · exact hold
    · obtain ⟨rfl, rfl, rfl⟩ := Turn.answered.inj hnew
      exact h.answers.mp hknows
  reserved hname := by
    rcases List.mem_append.mp hname with hold | hnew
    · exact h.reserved hold
    · exact Turn.noConfusion (List.mem_singleton.mp hnew)

/-- After a new answer the scope remembers that one too. -/
theorem Recalls.append_new (h : s.Recalls stretch)
    (hnone : s.answers.get? (requestKey name form "_") = none) (hfree : answer ∉ s.used) :
    (s.record (requestKey name form "_") answer).Recalls
      (stretch ++ [.answered name form answer]) where
  sound := h.sound.record hfree
  answers {name' form' answer'} := by
    rw [Knows, record, Assoc.get?_set, List.mem_append, List.mem_singleton]
    by_cases hkey : requestKey name' form' "_" = requestKey name form "_"
    · obtain ⟨rfl, rfl⟩ := requestKey_inj hkey
      have hnever : .answered name' form' answer' ∉ stretch := by
        rw [← h.answers, Knows, hnone]
        exact Option.some_ne_none answer' ∘ Eq.symm
      simp [hnever, eq_comm]
    · have hother : Turn.answered name' form' answer' ≠ .answered name form answer := by
        intro heq
        obtain ⟨rfl, rfl, -⟩ := Turn.answered.inj heq
        exact hkey rfl
      rw [if_neg hkey, ← h.answers, Knows, or_iff_left hother]
  reserved hname := by
    rcases List.mem_append.mp hname with hold | hnew
    · exact List.mem_cons_of_mem answer (h.reserved hold)
    · exact Turn.noConfusion (List.mem_singleton.mp hnew)

theorem Recalls.append_reserved (h : s.Recalls stretch) (name : String) :
    (s.reserve name).Recalls (stretch ++ [.reserved name]) where
  sound := ⟨fun ha => List.mem_cons_of_mem name (h.sound.used ha), h.sound.injective⟩
  answers {name' form' answer'} := by
    have hknows : (s.reserve name).Knows form' name' answer' ↔ s.Knows form' name' answer' := .rfl
    rw [hknows, h.answers, List.mem_append, List.mem_singleton]
    exact (or_iff_left Turn.noConfusion).symm
  reserved hname := by
    rcases List.mem_append.mp hname with hold | hnew
    · exact List.mem_cons_of_mem name (h.reserved hold)
    · obtain rfl := Turn.reserved.inj (List.mem_singleton.mp hnew)
      exact List.mem_cons_self

/-- **A request other than a clearing prolongs the stretch that a scope recalls.** -/
theorem Recalls.serve (h : s.Recalls stretch) {r : Request} (hr : r ≠ .clear) :
    (s.serve r).2.Recalls (stretch ++ [(s.serve r).1]) := by
  cases r with
  | clear => exact absurd rfl hr
  | reserve name => exact h.append_reserved name
  | sanitize name form =>
    show (s.sanitize name form).2.Recalls (stretch ++ [.answered name form (s.sanitize name form).1])
    rcases sanitize_cases s name form "_" with ⟨answer, hknows, heq⟩ | ⟨answer, hnone, -, hfree, heq⟩
    · rw [heq]
      exact h.append_known hknows
    · rw [heq]
      exact h.append_new hnone hfree

/-! ### A stretch -/

theorem Recalls.stable (h : s.Recalls stretch) {answer' : String}
    (h1 : .answered name form answer ∈ stretch) (h2 : .answered name form answer' ∈ stretch) :
    answer = answer' := by
  have hknows : s.Knows form name answer := h.answers.mpr h1
  have hknows' : s.Knows form name answer' := h.answers.mpr h2
  exact Option.some.inj (hknows.symm.trans hknows')

theorem Recalls.injective (h : s.Recalls stretch) {name' : String} {form' : LetterCase}
    (h1 : .answered name form answer ∈ stretch) (h2 : .answered name' form' answer ∈ stretch) :
    name = name' ∧ form = form' :=
  requestKey_inj (h.sound.injective (h.answers.mpr h1) (h.answers.mpr h2))

/-- What a scope answers for the first time is none of the names reserved before. -/
theorem Recalls.fresh (h : s.Recalls stretch) {r : Request}
    (hserve : (s.serve r).1 = .answered name form answer)
    (hfirst : ∀ name' form', .answered name' form' answer ∉ stretch) :
    .reserved answer ∉ stretch := by
  cases r with
  | clear => exact nomatch hserve
  | reserve _ => exact nomatch hserve
  | sanitize name' form' =>
    obtain ⟨rfl, rfl, hanswer⟩ := Turn.answered.inj hserve
    rcases sanitize_cases s name' form' "_" with ⟨a, hknows, heq⟩ | ⟨a, -, -, hfree, heq⟩
    · have ha : a = answer := (congrArg Prod.fst heq).symm.trans hanswer
      exact absurd (h.answers.mp (ha ▸ hknows)) (hfirst name' form')
    · have ha : a = answer := (congrArg Prod.fst heq).symm.trans hanswer
      exact fun hreserved => hfree (ha ▸ h.reserved hreserved)

/-- **One more request keeps the names of a stretch apart.** -/
theorem keepsApart_append (h : s.Recalls stretch) (hapart : KeepsApart stretch) {r : Request}
    (hr : r ≠ .clear) : KeepsApart (stretch ++ [(s.serve r).1]) where
  stable := (h.serve hr).stable
  injective := (h.serve hr).injective
  fresh {earlier later name form answer} hsplit hfirst := by
    rcases List.eq_nil_or_concat later with rfl | ⟨later, last, rfl⟩
    · obtain ⟨rfl, hturn⟩ := List.append_inj' hsplit rfl
      exact h.fresh (List.singleton_inj.mp hturn) hfirst
    · rw [List.concat_eq_append, ← List.cons_append, ← List.append_assoc] at hsplit
      exact hapart.fresh (List.append_inj' hsplit rfl).1 hfirst

theorem keepsApart_nil : KeepsApart [] where
  stable h := absurd h List.not_mem_nil
  injective h := absurd h List.not_mem_nil
  fresh h := absurd h.symm (by simp)

/-! ### A history -/

theorem serve_eq_cleared {r : Request} : (s.serve r).1 = .cleared ↔ r = .clear := by
  cases r <;> simp [serve]

/-- A scope that recalls the stretch at hand goes on keeping names apart in it and in all later
ones. -/
theorem keepsApart_history (requests : List Request) : ∀ {s : Scope} {stretch : List Turn},
    s.Recalls stretch → KeepsApart stretch → .cleared ∉ stretch →
    ∀ part ∈ stretches (stretch ++ s.history requests), KeepsApart part := by
  induction requests with
  | nil =>
    intro s stretch _ hapart hplain part hpart
    rw [history, List.append_nil, stretches, List.splitOn_eq_singleton hplain,
      List.mem_singleton] at hpart
    exact hpart ▸ hapart
  | cons r rest ih =>
    intro s stretch h hapart hplain part hpart
    by_cases hr : r = .clear
    · subst hr
      have hsplit : stretches (stretch ++ s.history (.clear :: rest)) =
          stretch :: stretches (s.clear.history rest) :=
        List.splitOn_append_cons_self_of_not_mem hplain _
      rw [hsplit] at hpart
      rcases List.mem_cons.mp hpart with rfl | hlater
      · exact hapart
      · exact ih (.of_clear s) keepsApart_nil List.not_mem_nil part hlater
    · have hturn : .cleared ∉ stretch ++ [(s.serve r).1] := by
        rw [List.mem_append, List.mem_singleton, not_or]
        exact ⟨hplain, fun h => hr (serve_eq_cleared.mp h.symm)⟩
      have hassoc : stretch ++ s.history (r :: rest) =
          (stretch ++ [(s.serve r).1]) ++ (s.serve r).2.history rest := by
        rw [history, List.append_assoc, List.singleton_append]
      rw [hassoc] at hpart
      exact ih (h.serve hr) (keepsApart_append h hapart hr) hturn part hpart

/-- **Between two clearings a scope keeps its names apart**, whatever its words are and whatever
it is asked for. -/
theorem history_keepsApart (keywords builtins : List String) (requests : List Request) :
    ∀ stretch ∈ stretches (history { keywords, builtins } requests), KeepsApart stretch :=
  keepsApart_history requests (.of_clear { keywords, builtins }) keepsApart_nil List.not_mem_nil

/-- In the second stretch of this history names meet names that are reserved, handed out or words
of the scope, and one that was handed out is reserved afterwards. -/
theorem history_keepsApart_crowded :
    let requests := [.sanitize "Page" .snake, .clear, .reserve "page", .sanitize "Page" .snake,
      .sanitize "page" .preserve, .reserve "page_1", .sanitize "Page" .snake,
      .sanitize "class" .snake, .sanitize "class_" .snake, .clear, .reserve "page"]
    let stretch := [.reserved "page", .answered "Page" .snake "page_1",
      .answered "page" .preserve "page_2", .reserved "page_1", .answered "Page" .snake "page_1",
      .answered "class" .snake "class_", .answered "class_" .snake "class__1"]
    stretch ∈ stretches (history { keywords := ["class"], builtins := [] } requests) ∧
      KeepsApart stretch := by
  intro requests stretch
  have hmem : stretch ∈ stretches (history { keywords := ["class"], builtins := [] } requests) := by
    decide +kernel
  exact ⟨hmem, history_keepsApart ["class"] [] requests stretch hmem⟩

end Scope
end Naming
end TrackingPlan
