import TrackingPlan.Proofs.Naming.Snake

/-!
# Snake case by substitution

The rules of snake case are patterns, each of which is replaced wherever it matches: the text is
gone through once from its start, the longest match at a place is replaced, and the next one is
looked for behind it. `splitRuns`, `splitHumps` and `collapseUnderscores` go character by character;
they do what the substitutions of their patterns do.

Key definitions: `Substitutes`, `RunPattern`, `HumpPattern`, `UnderscorePattern`, `SpelledFrom`.
Key theorems: `Performs.substitutes_iff`, `performs_splitRuns`, `performs_splitHumps`,
`performs_collapseUnderscores`, `spelledFrom_iff`.
-/

namespace TrackingPlan
namespace Naming

/-- What a pattern matches, and what is put in its place. -/
abbrev Pattern := List Char → List Char → Prop

/-- A match that begins the text begins it with no more characters than this one. -/
def Pattern.Longest (pattern : Pattern) (s text : List Char) : Prop :=
  ∀ text' new, pattern text' new → text' <+: s → text'.length ≤ text.length

/-- The pattern matches nothing that begins the text. -/
def Pattern.Misses (pattern : Pattern) (s : List Char) : Prop :=
  ∀ text new, pattern text new → ¬ text <+: s

/-- The second text is the first one with the pattern replaced, from the start to the end, each time
by its longest match and without going back behind it. -/
inductive Substitutes (pattern : Pattern) : List Char → List Char → Prop
  | nil : Substitutes pattern [] []
  | replace {text new rest out : List Char} : pattern text new →
    pattern.Longest (text ++ rest) text → Substitutes pattern rest out →
    Substitutes pattern (text ++ rest) (new ++ out)
  | keep {c : Char} {rest out : List Char} : pattern.Misses (c :: rest) →
    Substitutes pattern rest out → Substitutes pattern (c :: rest) (c :: out)

/-- The function takes the steps of the substitution. -/
structure Performs (pattern : Pattern) (f : List Char → List Char) : Prop where
  ne_nil : ∀ {text new}, pattern text new → text ≠ []
  nil : f [] = []
  replace : ∀ {text new} rest, pattern text new → pattern.Longest (text ++ rest) text →
    f (text ++ rest) = new ++ f rest
  keep : ∀ {c rest}, pattern.Misses (c :: rest) → f (c :: rest) = c :: f rest

variable {pattern : Pattern} {f : List Char → List Char} {s t : List Char}

/-- Of the matches that begin a text one is the longest. -/
theorem exists_longest (h : ¬ pattern.Misses s) :
    ∃ text new, pattern text new ∧ text <+: s ∧ pattern.Longest s text := by
  classical
  let Fits (n : Nat) : Prop := ∃ text new, pattern text new ∧ text <+: s ∧ text.length = n
  unfold Pattern.Misses at h
  push Not at h
  obtain ⟨text, new, hmatch, hprefix⟩ := h
  have hfits : Fits (Nat.findGreatest Fits s.length) :=
    Nat.findGreatest_spec hprefix.length_le ⟨text, new, hmatch, hprefix, rfl⟩
  obtain ⟨text, new, hmatch, hprefix, hlength⟩ := hfits
  refine ⟨text, new, hmatch, hprefix, fun text' new' hmatch' hprefix' => hlength ▸ ?_⟩
  exact Nat.le_findGreatest hprefix'.length_le ⟨text', new', hmatch', hprefix', rfl⟩

theorem Performs.substitutes (h : Performs pattern f) (s : List Char) :
    Substitutes pattern s (f s) := by
  induction hn : s.length using Nat.strong_induction_on generalizing s with
  | _ n ih =>
    by_cases hmisses : pattern.Misses s
    · cases s with
      | nil =>
        rw [h.nil]
        exact .nil
      | cons c rest =>
        rw [h.keep hmisses]
        exact .keep hmisses (ih rest.length (hn ▸ Nat.lt_succ_self _) rest rfl)
    · obtain ⟨text, new, hmatch, ⟨rest, rfl⟩, hlongest⟩ := exists_longest hmisses
      have hshorter : rest.length < n := by
        have hpos : 0 < text.length := List.length_pos_iff.mpr (h.ne_nil hmatch)
        rw [List.length_append] at hn
        omega
      rw [h.replace rest hmatch hlongest]
      exact .replace hmatch hlongest (ih rest.length hshorter rest rfl)

/-- **A function that takes the steps of a substitution gives its only result.** -/
theorem Performs.substitutes_iff (h : Performs pattern f) :
    Substitutes pattern s t ↔ t = f s := by
  refine ⟨fun hsub => ?_, fun heq => heq ▸ h.substitutes s⟩
  induction hsub with
  | nil => exact h.nil.symm
  | replace hmatch hlongest _ ih => rw [ih, h.replace _ hmatch hlongest]
  | keep hmisses _ ih => rw [ih, h.keep hmisses]

/-! ### The patterns -/

/-- Two capitals or more and a small letter, which are parted before the last capital. -/
inductive RunPattern : Pattern
  | part {run : List Char} {b c : Char} : run ≠ [] → (∀ a ∈ run, a.isUpper) → b.isUpper →
    c.isLower → RunPattern (run ++ [b, c]) (run ++ ['_', b, c])

/-- A small letter or a digit and a capital, which are parted. -/
inductive HumpPattern : Pattern
  | part {a b : Char} : isLow a → b.isUpper → HumpPattern [a, b] [a, '_', b]

/-- One underscore or more, for which one is put. -/
inductive UnderscorePattern : Pattern
  | collapse (n : Nat) : UnderscorePattern (List.replicate (n + 1) '_') ['_']

variable {a b c : Char} {run : List Char}

theorem isUpper_of_isLower (h : c.isLower) : c.isUpper = false :=
  isUpper_of_isLow (isLow_of_isLower h)

/-- No capital is parted from a capital that another one follows. -/
theorem splitRuns_cons_cons_cons_of_isUpper (a b : Char) (hc : c.isUpper) (s : List Char) :
    splitRuns (a :: b :: c :: s) = a :: splitRuns (b :: c :: s) := by
  refine if_neg fun hboth => ?_
  have hlower : c.isLower := (Bool.and_eq_true_iff.mp hboth).2
  rw [isUpper_of_isLower hlower] at hc
  exact Bool.false_ne_true hc

/-- A run of capitals is parted before its last one, and only there. -/
theorem splitRuns_run (hne : run ≠ []) (hrun : ∀ a ∈ run, a.isUpper) (hb : b.isUpper)
    (hc : c.isLower) (rest : List Char) :
    splitRuns (run ++ b :: c :: rest) = run ++ '_' :: b :: c :: splitRuns rest := by
  induction run with
  | nil => exact absurd rfl hne
  | cons a run ih =>
    have ha : a.isUpper := hrun a List.mem_cons_self
    cases run with
    | nil =>
      have hend : splitRuns (b :: c :: rest) = b :: c :: splitRuns rest := by
        rw [splitRuns_cons_cons_of_isUpper_eq_false b (isUpper_of_isLower hc),
          splitRuns_cons_of_isUpper_eq_false (isUpper_of_isLower hc)]
      show splitRuns (a :: b :: c :: rest) = a :: '_' :: b :: c :: splitRuns rest
      rw [← hend]
      exact if_pos (by rw [ha, hb, hc]; rfl)
    | cons a' run =>
      obtain ⟨-, hrest⟩ := List.forall_mem_cons.mp hrun
      have hfirst : splitRuns (a :: a' :: (run ++ b :: c :: rest)) =
          a :: splitRuns (a' :: (run ++ b :: c :: rest)) := by
        cases run with
        | nil => exact splitRuns_cons_cons_cons_of_isUpper a a' hb _
        | cons d run =>
          have hd : d.isUpper := hrest d (List.mem_cons_of_mem a' List.mem_cons_self)
          exact splitRuns_cons_cons_cons_of_isUpper a a' hd _
      exact hfirst.trans (congrArg (a :: ·) (ih (List.cons_ne_nil a' run) hrest))

theorem performs_splitRuns : Performs RunPattern splitRuns where
  ne_nil h := by
    cases h
    simp
  nil := rfl
  replace rest h _ := by
    cases h with
    | part hne hrun hb hc => simpa using splitRuns_run hne hrun hb hc rest
  keep {a s} h := by
    match s with
    | [] => rfl
    | [_] => rfl
    | b :: c :: rest =>
      refine if_neg fun hboth => ?_
      simp only [Bool.and_eq_true] at hboth
      have hmatch : RunPattern ([a] ++ [b, c]) ([a] ++ ['_', b, c]) :=
        .part (List.cons_ne_nil a []) (by simpa using hboth.1.1) hboth.1.2 hboth.2
      exact h _ _ hmatch ⟨rest, rfl⟩

theorem performs_splitHumps : Performs HumpPattern splitHumps where
  ne_nil h := by
    cases h
    simp
  nil := rfl
  replace rest h _ := by
    cases h with
    | @part a b ha hb =>
      have hlow : (a.isLower || a.isDigit) = true := ha
      show splitHumps (a :: b :: rest) = a :: '_' :: b :: splitHumps rest
      rw [splitHumps, hlow, hb, Bool.and_self, if_pos rfl,
        splitHumps_cons_of_isLow_eq_false (isLow_of_isUpper hb)]
  keep {a s} h := by
    cases s with
    | nil => rfl
    | cons b rest =>
      refine if_neg fun hboth => ?_
      obtain ⟨ha, hb⟩ := Bool.and_eq_true_iff.mp hboth
      exact h _ _ (.part ha hb) ⟨rest, rfl⟩

theorem collapseUnderscores_replicate (n : Nat) {rest : List Char} (h : ∀ c ∈ rest.head?, c ≠ '_') :
    collapseUnderscores (List.replicate (n + 1) '_' ++ rest) = '_' :: collapseUnderscores rest := by
  induction n with
  | zero =>
    cases rest with
    | nil => rfl
    | cons c rest => exact if_neg fun hboth => h c rfl hboth.2
  | succ n ih =>
    rw [← ih]
    exact if_pos ⟨rfl, rfl⟩

theorem performs_collapseUnderscores : Performs UnderscorePattern collapseUnderscores where
  ne_nil h := by
    cases h
    simp
  nil := rfl
  replace {text new} rest h hlongest := by
    cases h with
    | collapse n =>
      refine collapseUnderscores_replicate n fun c hc hunderscore => ?_
      obtain ⟨more, rfl⟩ := List.head?_eq_some_iff.mp hc
      have hlonger := hlongest _ _ (.collapse (n + 1)) ⟨more, by
        rw [hunderscore, List.replicate_succ' (n := n + 1), List.append_assoc]
        rfl⟩
      simp at hlonger
  keep {c rest} h :=
    collapseUnderscores_cons (fun hc => h _ _ (.collapse 0) ⟨rest, by rw [hc]; rfl⟩) rest

/-! ### The form -/

/-- The form is what the three substitutions make of the word, with a change to lower case before
the last of them, and without underscores at its ends. -/
def SpelledFrom (word form : List Char) : Prop :=
  ∃ runs humps collapsed, Substitutes RunPattern word runs ∧ Substitutes HumpPattern runs humps ∧
    Substitutes UnderscorePattern (humps.map Char.toLower) collapsed ∧
    form = trimUnderscores collapsed

/-- **The snake-case form is what the substitutions make of the word.** -/
theorem spelledFrom_iff {word form : List Char} : SpelledFrom word form ↔ form = snakeWord word := by
  simp only [SpelledFrom, performs_splitRuns.substitutes_iff, performs_splitHumps.substitutes_iff,
    performs_collapseUnderscores.substitutes_iff]
  constructor
  · rintro ⟨_, _, _, rfl, rfl, rfl, h⟩
    exact h
  · exact fun h => ⟨_, _, _, rfl, rfl, rfl, h⟩

end Naming
end TrackingPlan
