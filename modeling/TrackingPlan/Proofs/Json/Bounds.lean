import TrackingPlan.Proofs.Json.Remainders

/-!
# The bounds of reading

The reader counts its calls and the depth of lists and objects. The bound on the calls does not
show once it is large enough for the length of the text, which the bound for a whole document is. A
depth only shows in a text that is too deep for it: every other text is read alike under any larger
depth.

Key definitions: `Json.AgreeBelow`, `Json.Deepens`.
Key theorems: `Json.agreeBelow_read`, `Json.readValue_of_le`, `Json.deepens_read`,
`Json.read_of_depth_le`, `Json.read_eq_of_not_tooDeep`, `Json.eq_of_read`.
-/

namespace TrackingPlan
namespace Json

variable {α β : Type} {close : Char} {next : List Char → Reading (List α)}

/-! ### Calls -/

/-- Two stages give the same for every text below a length. -/
def AgreeBelow (n : Nat) (p q : List Char → Reading α) : Prop := ∀ s, s.length < n → p s = q s

theorem length_skipSpace_le (s : List Char) : (skipSpace s).length ≤ s.length :=
  (skipSpace_suffix s).length_le

theorem agreeBelow_readThen {n : Nat} {p p' : List Char → Reading α}
    {q q' : α → List Char → Reading β} (hleaves : LeavesEnd p) (hp : AgreeBelow n p p')
    (hq : ∀ x, AgreeBelow n (q x) (q' x)) : AgreeBelow n (readThen p q) (readThen p' q') := by
  intro s hs
  rw [readThen, readThen, ← hp s hs]
  cases hx : p s with
  | error e => rfl
  | ok y =>
    have hrest : y.2.length ≤ s.length := (hleaves hx).length_le
    have hspace := length_skipSpace_le y.2
    exact hq y.1 _ (by omega)

theorem agreeBelow_readMore {n : Nat} {next' : List Char → Reading (List α)}
    (h : AgreeBelow n next next') (x : α) :
    AgreeBelow (n + 1) (readMore close next x) (readMore close next' x) := by
  intro s hs
  cases s with
  | nil => rfl
  | cons c s =>
    have hspace := length_skipSpace_le s
    rw [List.length_cons] at hs
    rw [readMore, readMore, h (skipSpace s) (by omega)]

theorem agreeBelow_readContents {n : Nat} {next' : List Char → Reading (List α)}
    (h : AgreeBelow n next next') :
    AgreeBelow n (readContents close next) (readContents close next') := by
  intro s hs
  cases s with
  | nil => exact h [] hs
  | cons c s => rw [readContents, readContents, h (c :: s) hs]

theorem agreeBelow_readValue_succ {n fuel : Nat}
    (hitems : ∀ depth, AgreeBelow n (readItems fuel depth) (readItems (fuel + 1) depth))
    (hmembers : ∀ depth, AgreeBelow n (readMembers fuel depth) (readMembers (fuel + 1) depth))
    (depth : Nat) :
    AgreeBelow (n + 1) (readValue (fuel + 1) depth) (readValue (fuel + 2) depth) := by
  intro s hs
  cases s using readValue_cases with
  | nil => rw [readValue_nil, readValue_nil]
  | string s => rw [readValue_quoted, readValue_quoted]
  | list s =>
    cases depth with
    | zero => rw [readValue, readValue]
    | succ depth =>
      have hspace := length_skipSpace_le s
      rw [List.length_cons] at hs
      rw [readValue_list, readValue_list, agreeBelow_readContents (hitems depth) _ (by omega)]
  | object s =>
    cases depth with
    | zero => rw [readValue, readValue]
    | succ depth =>
      have hspace := length_skipSpace_le s
      rw [List.length_cons] at hs
      rw [readValue_object, readValue_object, agreeBelow_readContents (hmembers depth) _ (by omega)]
  | atom c s hc => rw [readValue_atom hc, readValue_atom hc]

/-- **The bound does not show** where it is twice the length of the text. Every second call is one
for a value, which takes a character before it makes calls of its own. -/
theorem agreeBelow_read (n : Nat) : ∀ fuel,
    (2 * n ≤ fuel + 1 → ∀ depth, AgreeBelow n (readValue fuel depth) (readValue (fuel + 1) depth)) ∧
    (2 * n ≤ fuel → ∀ depth, AgreeBelow n (readItems fuel depth) (readItems (fuel + 1) depth)) ∧
    (2 * n ≤ fuel → ∀ depth,
      AgreeBelow n (readMembers fuel depth) (readMembers (fuel + 1) depth)) := by
  induction n with
  | zero =>
    intro fuel
    refine ⟨fun _ _ s hs => ?_, fun _ _ s hs => ?_, fun _ _ s hs => ?_⟩ <;>
      exact absurd hs (Nat.not_lt_zero _)
  | succ n ih =>
    have hvalue : ∀ fuel, 2 * (n + 1) ≤ fuel + 1 → ∀ depth,
        AgreeBelow (n + 1) (readValue fuel depth) (readValue (fuel + 1) depth) := by
      intro fuel hfuel
      obtain ⟨f, rfl⟩ : ∃ f, fuel = f + 1 := ⟨fuel - 1, by omega⟩
      obtain ⟨-, hitems, hmembers⟩ := ih f
      exact agreeBelow_readValue_succ (hitems (by omega)) (hmembers (by omega))
    refine fun fuel => ⟨hvalue fuel, fun hfuel depth => ?_, fun hfuel depth => ?_⟩
    all_goals
      obtain ⟨f, rfl⟩ : ∃ f, fuel = f + 1 := ⟨fuel - 1, by omega⟩
      obtain ⟨-, hitems, hmembers⟩ := ih f
      have hleaves := (leavesEnd_read f).1 depth
    · rw [readItems_succ, readItems_succ]
      exact agreeBelow_readThen hleaves (hvalue f (by omega) depth) fun v =>
        agreeBelow_readMore (hitems (by omega) depth) v
    · rw [readMembers_succ, readMembers_succ]
      refine agreeBelow_readThen leavesEnd_readName (fun _ _ => rfl) fun name => ?_
      exact agreeBelow_readThen hleaves (hvalue f (by omega) depth) fun v =>
        agreeBelow_readMore (hmembers (by omega) depth) (name, v)

/-- A value is read alike under every bound that is large enough. -/
theorem readValue_of_le {s : List Char} {fuel fuel' : Nat} (hs : 2 * s.length < fuel)
    (h : fuel ≤ fuel') (depth : Nat) : readValue fuel' depth s = readValue fuel depth s := by
  induction h with
  | refl => rfl
  | step hle ih =>
    rename_i m
    have hle : fuel ≤ m := hle
    have hstep := (agreeBelow_read (s.length + 1) m).1 (by omega) depth s (Nat.lt_succ_self _)
    exact hstep.symm.trans ih

/-! ### Depth -/

/-- What the first stage reads, the second one reads alike, unless it is too deep for the first. -/
def Deepens (p q : List Char → Reading α) : Prop := ∀ s, p s = .error .tooDeep ∨ q s = p s

theorem Deepens.refl (p : List Char → Reading α) : Deepens p p := fun _ => .inr rfl

/-- A stage whose first part may be too deep. -/
theorem Deepens.bind {x y : Except Fault α} {f g : α → Except Fault β}
    (h : x = .error .tooDeep ∨ y = x) (hfg : ∀ a, f a = .error .tooDeep ∨ g a = f a) :
    x.bind f = .error .tooDeep ∨ y.bind g = x.bind f := by
  rcases h with rfl | rfl
  · exact .inl rfl
  · cases y with
    | error e => exact .inr rfl
    | ok a => exact hfg a

theorem Deepens.map {p q : List Char → Reading α} (h : Deepens p q) (f : α × List Char → β)
    (s : List Char) : (p s).map f = .error .tooDeep ∨ (q s).map f = (p s).map f := by
  rcases h s with hdeep | heq
  · exact .inl (by rw [hdeep]; rfl)
  · exact .inr (by rw [heq])

theorem deepens_readThen {p p' : List Char → Reading α} {q q' : α → List Char → Reading β}
    (hp : Deepens p p') (hq : ∀ x, Deepens (q x) (q' x)) :
    Deepens (readThen p q) (readThen p' q') :=
  fun s => Deepens.bind (hp s) fun y => hq y.1 (skipSpace y.2)

variable {next' : List Char → Reading (List α)}

theorem deepens_readMore (h : Deepens next next') (x : α) :
    Deepens (readMore close next x) (readMore close next' x) := by
  intro s
  cases s with
  | nil => exact .inr rfl
  | cons c r =>
    rw [readMore, readMore]
    split
    · exact .inr rfl
    · split
      · exact h.map _ (skipSpace r)
      · exact .inr rfl

theorem deepens_readContents (h : Deepens next next') :
    Deepens (readContents close next) (readContents close next') := by
  intro s
  cases s with
  | nil => exact h []
  | cons c r =>
    rw [readContents, readContents]
    split
    · exact .inr rfl
    · exact h (c :: r)

variable {fuel depth depth' : Nat}

theorem deepens_readValue_succ
    (hitems : ∀ {depth depth'}, depth ≤ depth' →
      Deepens (readItems fuel depth) (readItems fuel depth'))
    (hmembers : ∀ {depth depth'}, depth ≤ depth' →
      Deepens (readMembers fuel depth) (readMembers fuel depth')) (h : depth ≤ depth') :
    Deepens (readValue (fuel + 1) depth) (readValue (fuel + 1) depth') := by
  intro s
  cases s using readValue_cases with
  | nil => exact .inr (by rw [readValue_nil, readValue_nil])
  | string s => exact .inr (by rw [readValue_quoted, readValue_quoted])
  | list s =>
    cases depth with
    | zero => exact .inl (by rw [readValue])
    | succ depth =>
      obtain ⟨depth', rfl⟩ : ∃ n, depth' = n + 1 := ⟨depth' - 1, by omega⟩
      rw [readValue_list, readValue_list]
      exact (deepens_readContents (hitems (by omega))).map _ (skipSpace s)
  | object s =>
    cases depth with
    | zero => exact .inl (by rw [readValue])
    | succ depth =>
      obtain ⟨depth', rfl⟩ : ∃ n, depth' = n + 1 := ⟨depth' - 1, by omega⟩
      rw [readValue_object, readValue_object]
      exact (deepens_readContents (hmembers (by omega))).map _ (skipSpace s)
  | atom c s hc => exact .inr (by rw [readValue_atom hc, readValue_atom hc])

/-- **A larger depth does not show** in a text that is not too deep for the smaller one. -/
theorem deepens_read (fuel : Nat) :
    (∀ {depth depth'}, depth ≤ depth' → Deepens (readValue fuel depth) (readValue fuel depth')) ∧
    (∀ {depth depth'}, depth ≤ depth' → Deepens (readItems fuel depth) (readItems fuel depth')) ∧
    ∀ {depth depth'}, depth ≤ depth' →
      Deepens (readMembers fuel depth) (readMembers fuel depth') := by
  induction fuel with
  | zero => exact ⟨fun _ _ => .inr rfl, fun _ _ => .inr rfl, fun _ _ => .inr rfl⟩
  | succ fuel ih =>
    obtain ⟨hvalue, hitems, hmembers⟩ := ih
    refine ⟨deepens_readValue_succ hitems hmembers, fun h => ?_, fun h => ?_⟩
    · rw [readItems_succ, readItems_succ]
      exact deepens_readThen (hvalue h) fun v => deepens_readMore (hitems h) v
    · rw [readMembers_succ, readMembers_succ]
      exact deepens_readThen (.refl readName) fun name => deepens_readThen (hvalue h) fun v =>
        deepens_readMore (hmembers h) (name, v)

variable {text : String}

theorem read_of_depth_le (h : depth ≤ depth') (hread : read depth text ≠ .error .tooDeep) :
    read depth' text = read depth text := by
  rcases (deepens_read (2 * text.toList.length + 2)).1 h (skipSpace text.toList) with hdeep | heq
  · exact absurd (by simp only [read, hdeep]) hread
  · simp only [read, heq]

/-- **A text is read alike under all depths that it is not too deep for.** -/
theorem read_eq_of_not_tooDeep (h : read depth text ≠ .error .tooDeep)
    (h' : read depth' text ≠ .error .tooDeep) : read depth' text = read depth text := by
  rcases Nat.le_total depth depth' with hle | hle
  · exact read_of_depth_le hle h
  · exact (read_of_depth_le hle h').symm

/-- A text has one value, under whatever depth it is read. -/
theorem eq_of_read {v w : Json} (h : read depth text = .ok v) (h' : read depth' text = .ok w) :
    v = w := by
  have hsame : read depth' text = read depth text :=
    read_eq_of_not_tooDeep (by simp [h]) (by simp [h'])
  exact Except.ok.inj (h.symm.trans (hsame.symm.trans h'))

end Json
end TrackingPlan
