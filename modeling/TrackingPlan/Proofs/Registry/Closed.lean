import TrackingPlan.Proofs.Registry.History

/-!
# Aliases and their languages

A registry is changed in place, and what was changed before a refusal stays changed. So a
registration looks at all aliases before it enters anything: one that is refused at any place in
its list of aliases, or that is left out because the language is there, changes nothing. Every
alias belongs to a registered language, whatever was registered, replaced or forgotten, so that
every name that is supported leads to a registered language.

Key definitions: `Registry.Change`, `Registry.registering`, `Registry.reached`,
`Registry.Closed`, `Registry.Refuses`.
Key theorems: `Registry.run_registering`, `Registry.registering_eq_error`,
`Registry.closed_reached`, `Registry.reached_closed`.
-/

namespace TrackingPlan
namespace Registry

/-! ### Registering in place -/

/-- Steps that look at a registry and change it; a refusal does not undo the steps before it. -/
abbrev Change := EStateM RegistryError Registry Unit

/-- The registry that a change leaves, whether it was refused or not. -/
def left {α : Type} : EStateM.Result RegistryError Registry α → Registry
  | .ok _ r => r
  | .error _ r => r

/-- Refuses an alias that is a language or that belongs to another one. -/
def refuseTaken (language name : String) : Change := do
  let r ← get
  if r.languages.has name then throw (.aliasIsLanguage name)
  let owner := (r.aliases.get? name).getD language
  unless owner = language do throw (.aliasTaken name owner)

/-- Enters a language. -/
def enterLanguage (language : String) (c : GeneratorClass) : Change :=
  modify fun r => { r with languages := r.languages.set language c }

/-- Enters an alias. -/
def enterAlias (language name : String) : Change :=
  modify fun r => { r with aliases := r.aliases.set name language }

/-- A registration step by step. -/
def registering (language : String) (candidate : Candidate) (aliases : List String)
    (replace : Bool) : Change :=
  match candidate with
  | .other => throw .notAGenerator
  | .generator c => do
    let key := keyOf language
    let names := aliasKeys key aliases
    unless (← get).languages.has key && !replace do
      unless replace do forM names (refuseTaken key)
      enterLanguage key c
      forM names (enterAlias key)

/-- A request step by step. -/
def perform : Request → Change
  | .register language candidate aliases replace => registering language candidate aliases replace
  | .unregister language => modify (·.unregister language)

/-- The registry that is reached from the empty one by one request after another. -/
def reached (history : List Request) : Registry :=
  history.foldl (fun r request => left ((perform request).run r)) {}

variable {r : Registry} {language name : String} {names aliases : List String}
  {candidate : Candidate} {replace : Bool} {e : RegistryError}

theorem run_refuseTaken (r : Registry) (language name : String) :
    (refuseTaken language name).run r =
      if r.languages.has name then .error (.aliasIsLanguage name) r
      else if (r.aliases.get? name).getD language = language then .ok () r
      else .error (.aliasTaken name ((r.aliases.get? name).getD language)) r := by
  unfold refuseTaken
  by_cases hlanguage : r.languages.has name
  · simp [hlanguage]
  · by_cases howner : (r.aliases.get? name).getD language = language
    · simp [hlanguage, howner]
    · simp [hlanguage, howner]

/-- The aliases are looked at one by one, and nothing is changed by that. -/
theorem run_forM_refuseTaken (r : Registry) (language : String) (names : List String) :
    (forM names (refuseTaken language)).run r = match r.checkAliases language names with
      | .ok _ => .ok () r
      | .error e => .error e r := by
  induction names with
  | nil => rfl
  | cons name rest ih =>
    rw [List.forM_cons, EStateM.run_bind, run_refuseTaken, checkAliases]
    by_cases hlanguage : r.languages.has name
    · rw [if_pos hlanguage, if_pos hlanguage]
    · rw [if_neg hlanguage, if_neg hlanguage]
      by_cases howner : (r.aliases.get? name).getD language = language
      · rw [if_pos howner, if_pos howner]
        exact ih
      · rw [if_neg howner, if_neg howner]

/-- The aliases are entered one by one, and nothing stops that. -/
theorem run_forM_enterAlias (language : String) (names : List String) (r : Registry) :
    (forM names (enterAlias language)).run r =
      .ok () { r with aliases := names.foldl (fun t name => t.set name language) r.aliases } := by
  induction names generalizing r with
  | nil => rfl
  | cons name rest ih =>
    rw [List.forM_cons, EStateM.run_bind]
    exact ih { r with aliases := r.aliases.set name language }

/-- A language and its aliases are entered. -/
theorem run_entering (r : Registry) (language : String) (c : GeneratorClass)
    (names : List String) :
    (do enterLanguage language c; forM names (enterAlias language) : Change).run r =
      .ok () (r.enter language c names) := by
  rw [EStateM.run_bind]
  exact run_forM_enterAlias language names { r with languages := r.languages.set language c }

/-- **A registration step by step is a registration at once**: when it is refused, then before
the first change. -/
theorem run_registering (r : Registry) (language : String) (candidate : Candidate)
    (aliases : List String) (replace : Bool) :
    (registering language candidate aliases replace).run r =
      match r.register language candidate aliases replace with
      | .ok next => .ok () next
      | .error e => .error e r := by
  cases candidate with
  | other => rfl
  | generator c =>
    unfold registering register
    by_cases hreplace : replace
    · simp only [hreplace, Bool.not_true, Bool.and_false, Bool.false_eq_true, ↓reduceIte]
      exact run_entering r (keyOf language) c _
    · by_cases hknown : r.languages.has (keyOf language)
      · simp [hreplace, hknown]
      · simp only [hreplace, hknown, Bool.not_false, Bool.and_true, Bool.false_eq_true, ↓reduceIte]
        rw [EStateM.run_bind, EStateM.run_get]
        simp only [hknown, Bool.false_eq_true, ↓reduceIte]
        rw [EStateM.run_bind, run_forM_refuseTaken]
        cases r.checkAliases (keyOf language) (aliasKeys (keyOf language) aliases) with
        | error e => rfl
        | ok _ => exact run_entering r (keyOf language) c _

theorem left_perform (r : Registry) (request : Request) :
    left ((perform request).run r) = r.serve request := by
  cases request with
  | unregister language => rfl
  | register language candidate aliases replace =>
    have hrun := run_registering r language candidate aliases replace
    simp only [perform, serve, hrun]
    cases r.register language candidate aliases replace <;> rfl

theorem reached_eq_after (history : List Request) : reached history = after history := by
  unfold reached after
  have hstep : (fun r request => left ((perform request).run r)) = serve := by
    funext r request
    exact left_perform r request
  rw [hstep]

/-! ### Refusals -/

/-- Why an alias cannot be entered for a language: it is a language itself, or it belongs to
another one. -/
inductive Taken (r : Registry) (language name : String) : RegistryError → Prop
  | isLanguage : r.languages.has name → Taken r language name (.aliasIsLanguage name)
  | isOwned {owner : String} : ¬ r.languages.has name → r.aliases.get? name = some owner →
      owner ≠ language → Taken r language name (.aliasTaken name owner)

/-- Why a registration is refused: there is no generator, or the first alias that cannot be
entered, wherever it stands among the aliases. -/
inductive Refuses (r : Registry) (language : String) :
    Candidate → List String → Bool → RegistryError → Prop
  | notAGenerator {aliases : List String} {replace : Bool} :
      Refuses r language .other aliases replace .notAGenerator
  | takenAlias {c : GeneratorClass} {aliases before after : List String} {name : String}
      {e : RegistryError} : ¬ r.languages.has (keyOf language) →
      aliasKeys (keyOf language) aliases = before ++ name :: after →
      (∀ n ∈ before, ∀ e', ¬ r.Taken (keyOf language) n e') → r.Taken (keyOf language) name e →
      Refuses r language (.generator c) aliases false e

/-- The reason why an alias cannot be entered, if there is one. -/
def fault? (r : Registry) (language name : String) : Option RegistryError :=
  if r.languages.has name then some (.aliasIsLanguage name)
  else
    let owner := (r.aliases.get? name).getD language
    if owner = language then none else some (.aliasTaken name owner)

theorem fault?_eq_some : r.fault? language name = some e ↔ r.Taken language name e := by
  unfold fault?
  constructor
  · intro h
    by_cases hlanguage : r.languages.has name
    · rw [if_pos hlanguage] at h
      exact Option.some.inj h ▸ .isLanguage hlanguage
    · rw [if_neg hlanguage] at h
      cases howner : r.aliases.get? name with
      | none => simp [howner] at h
      | some owner =>
        simp only [howner, Option.getD_some, Option.ite_none_left_eq_some, Option.some.injEq] at h
        exact h.2 ▸ .isOwned hlanguage howner h.1
  · intro h
    cases h with
    | isLanguage hlanguage => rw [if_pos hlanguage]
    | isOwned hlanguage howner hother => simp [hlanguage, howner, hother]

theorem fault?_eq_none : r.fault? language name = none ↔ ∀ e, ¬ r.Taken language name e := by
  simp only [← fault?_eq_some, Option.eq_none_iff_forall_ne_some, ne_eq]

/-- The first alias that cannot be entered decides. -/
theorem checkAliases_eq_findSome? (r : Registry) (language : String) (names : List String) :
    r.checkAliases language names = match names.findSome? (r.fault? language) with
      | some e => .error e
      | none => .ok () := by
  induction names with
  | nil => rfl
  | cons name rest ih =>
    rw [checkAliases, List.findSome?_cons, fault?]
    by_cases hlanguage : r.languages.has name
    · rw [if_pos hlanguage, if_pos hlanguage]
    · rw [if_neg hlanguage, if_neg hlanguage]
      by_cases howner : (r.aliases.get? name).getD language = language
      · simp only [howner, ↓reduceIte]
        exact ih
      · simp only [howner, ↓reduceIte]

theorem checkAliases_eq_error : r.checkAliases language names = .error e ↔
    ∃ before name after, names = before ++ name :: after ∧
      (∀ n ∈ before, ∀ e', ¬ r.Taken language n e') ∧ r.Taken language name e := by
  have hfind : r.checkAliases language names = .error e ↔
      names.findSome? (r.fault? language) = some e := by
    rw [checkAliases_eq_findSome?]
    cases names.findSome? (r.fault? language) <;> simp
  rw [hfind, List.findSome?_eq_some_iff]
  simp only [fault?_eq_some, fault?_eq_none]
  constructor
  · rintro ⟨before, name, after, hnames, htaken, hfree⟩
    exact ⟨before, name, after, hnames, hfree, htaken⟩
  · rintro ⟨before, name, after, hnames, hfree, htaken⟩
    exact ⟨before, name, after, hnames, htaken, hfree⟩

/-- **A registration is refused for exactly the stated reasons.** -/
theorem register_eq_error : r.register language candidate aliases replace = .error e ↔
    r.Refuses language candidate aliases replace e := by
  constructor
  · intro h
    cases candidate with
    | other =>
      obtain rfl : RegistryError.notAGenerator = e := Except.error.inj h
      exact .notAGenerator
    | generator c =>
      unfold register at h
      by_cases hreplace : replace
      · simp [hreplace] at h
      · by_cases hknown : r.languages.has (keyOf language)
        · simp [hreplace, hknown] at h
        · simp only [hreplace, hknown, Bool.false_eq_true, ↓reduceIte] at h
          cases hcheck : r.checkAliases (keyOf language) (aliasKeys (keyOf language) aliases) with
          | ok _ =>
            rw [hcheck] at h
            exact nomatch h
          | error e' =>
            rw [hcheck] at h
            obtain rfl : e' = e := Except.error.inj h
            obtain ⟨before, name, after, hnames, hfree, htaken⟩ := checkAliases_eq_error.mp hcheck
            rw [Bool.not_eq_true] at hreplace
            exact hreplace ▸ .takenAlias hknown hnames hfree htaken
  · intro h
    cases h with
    | notAGenerator => rfl
    | takenAlias hknown hnames hfree htaken =>
      have hcheck := checkAliases_eq_error.mpr ⟨_, _, _, hnames, hfree, htaken⟩
      simp only [register, hknown, hcheck, Bool.false_eq_true, ↓reduceIte]
      rfl

/-- A registration that is refused changes nothing, and it is refused for a stated reason. -/
theorem registering_eq_error {s : Registry} :
    (registering language candidate aliases replace).run r = .error e s ↔
      s = r ∧ r.Refuses language candidate aliases replace e := by
  rw [run_registering, ← register_eq_error]
  cases r.register language candidate aliases replace with
  | ok next => simp
  | error e' =>
    simp only [EStateM.Result.error.injEq, Except.error.injEq]
    rw [and_comm, eq_comm (a := r)]

/-- A language that is there is left out. -/
theorem registering_known (c : GeneratorClass) (aliases : List String)
    (h : r.languages.has (keyOf language)) :
    (registering language (.generator c) aliases false).run r = .ok () r := by
  rw [run_registering]
  simp only [register, h, Bool.false_eq_true, ↓reduceIte]

/-! ### Every alias has its language -/

/-- Every alias belongs to a registered language. -/
def Closed (r : Registry) : Prop := ∀ p ∈ r.aliases, r.languages.has p.2

/-- **A request leaves no alias behind.** -/
theorem closed_serve (h : r.Closed) (request : Request) : (r.serve request).Closed := by
  rcases r.serve_cases request with heq | ⟨language, -, heq⟩ | ⟨language, c, aliases, _, -, heq, -⟩
  · rwa [heq]
  · rw [heq]
    intro p hp
    obtain ⟨hthere, hother⟩ := List.mem_filter.mp hp
    exact Assoc.has_erase.mpr ⟨of_decide_eq_true hother, h p hthere⟩
  · rw [heq]
    intro p hp
    apply Assoc.has_set.mpr
    rcases mem_aliases_enter hp with ⟨-, hlanguage⟩ | hthere
    · exact .inl hlanguage
    · exact .inr (h p hthere)

theorem closed_reached (history : List Request) : (reached history).Closed := by
  rw [reached_eq_after]
  suffices ∀ r : Registry, r.Closed → (history.foldl serve r).Closed from
    this {} fun _ h => absurd h List.not_mem_nil
  induction history with
  | nil => exact fun _ h => h
  | cons request rest ih => exact fun r h => ih _ (closed_serve h request)

/-! ### Looking up names -/

theorem mem_languageNames : name ∈ r.languageNames ↔ r.languages.has name := by
  rw [languageNames, List.mem_mergeSort, Assoc.has_iff]

/-- A name is supported exactly when it leads to a language. -/
theorem supports_iff : r.supports name ↔ ∃ language, r.resolve name = .ok language := by
  unfold supports resolve
  by_cases hlanguage : r.languages.has (keyOf name)
  · simp [hlanguage]
  · cases halias : r.aliases.get? (keyOf name) with
    | none =>
      have hnone : r.aliases.has (keyOf name) = false := by rw [Assoc.has, halias]; rfl
      simp [hlanguage, hnone]
    | some language =>
      have hsome : r.aliases.has (keyOf name) = true := by rw [Assoc.has, halias]; rfl
      simp [hlanguage, hsome]

/-- Where every alias has its language, names lead to languages. -/
theorem mem_languageNames_of_resolve (h : r.Closed) (hresolve : r.resolve name = .ok language) :
    language ∈ r.languageNames := by
  rw [mem_languageNames]
  unfold resolve at hresolve
  by_cases hlanguage : r.languages.has (keyOf name)
  · rw [if_pos hlanguage] at hresolve
    exact Except.ok.inj hresolve ▸ hlanguage
  · rw [if_neg hlanguage] at hresolve
    cases halias : r.aliases.get? (keyOf name) with
    | none =>
      rw [halias] at hresolve
      exact nomatch hresolve
    | some owner =>
      rw [halias] at hresolve
      obtain rfl : owner = language := Except.ok.inj hresolve
      exact h (keyOf name, owner) (Assoc.mem_of_get? halias)

/-- **Every registry that is reached is closed**: each alias belongs to a registered language, a
name is supported exactly when it leads to a registered language, and a registration that is
refused, or left out because the language is there, changes neither the languages nor the
aliases. -/
theorem reached_closed (history : List Request) :
    let r := reached history
    (∀ p ∈ r.aliases, r.languages.has p.2) ∧
    (∀ name, (r.supports name ↔ ∃ language, r.resolve name = .ok language) ∧
      ∀ language, r.resolve name = .ok language → language ∈ r.languageNames) ∧
    (∀ language candidate aliases replace e s,
      (registering language candidate aliases replace).run r = .error e s ↔
        s = r ∧ r.Refuses language candidate aliases replace e) ∧
    (∀ language c aliases, r.languages.has (keyOf language) →
      (registering language (.generator c) aliases false).run r = .ok () r) := by
  intro r
  have hclosed : r.Closed := closed_reached history
  refine ⟨hclosed, fun name => ⟨supports_iff, fun language hresolve => ?_⟩, ?_, ?_⟩
  · exact mem_languageNames_of_resolve hclosed hresolve
  · intro language candidate aliases replace e s
    exact registering_eq_error
  · intro language c aliases hknown
    exact registering_known c aliases hknown

/-- A language that replaces another one's alias, and one that is forgotten by its alias. -/
def stolenAlias : List Request := [
  .register "Kotlin" (.generator (.target .kotlin)) ["KT", "jvm"] false,
  .register "kotlin2" (.generator (.target .kotlin)) ["kt"] true,
  .unregister "JVM"]

/-- In the middle of its aliases a registration meets one that belongs to another language, and
nothing of it is entered. -/
theorem reached_closed_midway :
    (registering "python" (.generator (.target .python)) ["py", "Kt", "py3"] false).run
      (reached stolenAlias) = .error (.aliasTaken "kt" "kotlin2") (reached stolenAlias) := by
  have hkeys : aliasKeys (keyOf "python") ["py", "Kt", "py3"] = ["py"] ++ "kt" :: ["py3"] := by
    decide +kernel
  refine ((reached_closed stolenAlias).2.2.1 _ _ _ _ _ _).mpr ⟨rfl, ?_⟩
  refine .takenAlias (by decide +kernel) hkeys ?_ ?_
  · refine List.forall_mem_singleton.mpr (fault?_eq_none.mp ?_)
    decide +kernel
  · refine .isOwned (by decide +kernel) (by decide +kernel) ?_
    decide +kernel

end Registry
end TrackingPlan
