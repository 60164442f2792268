import Mathlib
import TrackingPlan.Proofs.Naming.Camel
import TrackingPlan.Proofs.Naming.Letters

/-!
# Snake-case names in camel form and back

Camel form joins the parts of a snake-case name and leaves a capital where a part begins. When
every part is a small letter with at least one small letter or digit after it, no two capitals
stand side by side, so that no run of capitals is split; and each capital has a small letter or a
digit before it, so that the underscores come back where they were and nowhere else.

Key definitions: `isPart`, `IsSnake`, `raise`.
Key theorems: `toList_parameterName`, `splitRuns_raised`, `splitHumps_raised`,
`IsSnake.snakeWord_parameterName`, `IsSnake.safeForm_parameterName`.
-/

namespace TrackingPlan
namespace Naming

open Text

/-- A small letter or a digit of ASCII. -/
def isLow (c : Char) : Bool := c.isLower || c.isDigit

/-- A small letter with at least one small letter or digit after it. -/
def isPart : List Char → Bool
  | c :: d :: rest => c.isLower && (d :: rest).all isLow
  | _ => false

/-- A name of one or more parts with single underscores between them. -/
def IsSnake (name : String) : Prop := ∀ part ∈ name.toList.splitOn '_', isPart part

instance (name : String) : Decidable (IsSnake name) := inferInstanceAs (Decidable (∀ _ ∈ _, _))

/-- A part with its first letter as a capital. -/
def raise : List Char → List Char
  | [] => []
  | c :: rest => c.toUpper :: rest

variable {w s : List Char} {ps : List (List Char)} {a b c : Char} {name : String}

/-! ### The characters of parts -/

theorem exists_of_isPart {p : List Char} (h : isPart p) :
    ∃ c d rest, p = c :: d :: rest ∧ c.isLower ∧ ∀ x ∈ d :: rest, isLow x := by
  match p, h with
  | c :: d :: rest, h =>
    obtain ⟨hc, hrest⟩ := Bool.and_eq_true_iff.mp h
    exact ⟨c, d, rest, rfl, hc, List.all_eq_true.mp hrest⟩

theorem ne_nil_of_isPart {p : List Char} (h : isPart p) : p ≠ [] := by
  obtain ⟨c, d, rest, rfl, -, -⟩ := exists_of_isPart h
  exact List.cons_ne_nil c _

theorem isLow_of_isLower (h : c.isLower) : isLow c := Bool.or_eq_true_iff.mpr (Or.inl h)

theorem isLow_of_isPart {p : List Char} (h : isPart p) : ∀ c ∈ p, isLow c := by
  obtain ⟨c, d, rest, rfl, hc, hrest⟩ := exists_of_isPart h
  exact List.forall_mem_cons.mpr ⟨isLow_of_isLower hc, hrest⟩

theorem isUpper_of_isLow (h : isLow c) : c.isUpper = false := by
  rcases Bool.or_eq_true_iff.mp h with hlower | hdigit
  · exact Bool.eq_false_iff.mpr (Char.not_isUpper_of_isLower hlower)
  · exact isUpper_of_isDigit hdigit

theorem toLower_of_isLow (h : isLow c) : c.toLower = c :=
  Char.toLower_eq_of_not_isUpper (Bool.eq_false_iff.mp (isUpper_of_isLow h))

theorem isDigit_of_isLower (h : c.isLower) : c.isDigit = false :=
  Bool.eq_false_iff.mpr fun hdigit => by grind [Char.isLower, Char.isDigit]

theorem ne_underscore_of_isLow (h : isLow c) : c ≠ '_' := by
  rintro rfl
  exact absurd h (by decide)

theorem isUpper_toUpper (h : c.isLower) : c.toUpper.isUpper := by
  rw [Char.isUpper_toUpper_eq_isAlpha, Char.isAlpha, h, Bool.or_true]

theorem toLower_toUpper (h : c.isLower) : c.toUpper.toLower = c := by
  rw [Char.toLower_toUpper_eq_toLower, toLower_of_isLow (isLow_of_isLower h)]

/-- A capital is neither a small letter nor a digit. -/
theorem isLow_of_isUpper (h : c.isUpper) : isLow c = false :=
  Bool.eq_false_iff.mpr fun hlow => absurd h (Bool.eq_false_iff.mp (isUpper_of_isLow hlow))

theorem toNat_lt_of_isAlpha (h : c.isAlpha) : c.toNat < 0x80 := by
  have hZ : 'Z'.val.toNat = 90 := rfl
  have hz : 'z'.val.toNat = 122 := rfl
  have hc : c.toNat = c.val.toNat := rfl
  simp only [Char.isAlpha, Char.isUpper, Char.isLower, Bool.or_eq_true, Bool.and_eq_true,
    decide_eq_true_eq, UInt32.le_iff_toNat_le] at h
  omega

/-! ### Camel form -/

theorem intercalate_underscore (p : List Char) (ps : List (List Char)) :
    ['_'].intercalate (p :: ps) = p ++ ps.flatMap ('_' :: ·) := by
  induction ps generalizing p with
  | nil => rw [List.intercalate_singleton, List.flatMap_nil, List.append_nil]
  | cons q ps ih =>
    rw [List.intercalate_cons_cons, ih q, List.flatMap_cons, List.append_assoc]
    rfl

/-- The parts of a snake-case name, and the name that they make. -/
theorem IsSnake.exists_parts (h : IsSnake name) : ∃ p ps,
    name.toList.splitOn '_' = p :: ps ∧ name.toList = p ++ ps.flatMap ('_' :: ·) ∧
      isPart p ∧ ∀ q ∈ ps, isPart q := by
  obtain ⟨p, ps, hparts⟩ := List.exists_cons_of_ne_nil (List.splitOn_ne_nil '_' name.toList)
  have hall : ∀ q ∈ p :: ps, isPart q := hparts ▸ h
  refine ⟨p, ps, hparts, ?_, hall p List.mem_cons_self, fun q hq =>
    hall q (List.mem_cons_of_mem p hq)⟩
  rw [← intercalate_underscore, ← hparts, List.intercalate_splitOn]

theorem capitalize_of_isPart {p : List Char} (h : isPart p) : capitalize p = raise p := by
  obtain ⟨c, d, rest, rfl, hc, -⟩ := exists_of_isPart h
  have hascii : c.toNat < 0x80 := toNat_lt_of_isAlpha (Bool.or_eq_true_iff.mpr (.inr hc))
  rw [capitalize, upperChar, if_pos hascii]
  rfl

theorem decapitalize_raise {p : List Char} (h : isPart p) (s : List Char) :
    Text.decapitalize (raise p ++ s) = p ++ s := by
  obtain ⟨c, d, rest, rfl, hc, -⟩ := exists_of_isPart h
  have hupper : c.toUpper.isUpper := isUpper_toUpper hc
  have hlower : lower [c.toUpper] = [c] := by
    have hsigma : c.toUpper ≠ 'Σ' := by
      intro hsigma
      rw [hsigma] at hupper
      exact absurd hupper (by decide)
    have hascii : c.toUpper.toNat < 0x80 :=
      toNat_lt_of_isAlpha (Bool.or_eq_true_iff.mpr (.inl hupper))
    rw [lower, lowerAfter, if_neg hsigma, lowerChar, if_pos hascii, toLower_toUpper hc]
    rfl
  show lower [c.toUpper] ++ (d :: rest ++ s) = c :: d :: rest ++ s
  rw [hlower]
  rfl

/-- A snake-case name has no characters but those of its parts and underscores. -/
theorem IsSnake.not_mem {x : Char} (h : IsSnake name) (hx : isLow x = false) (hx' : x ≠ '_') :
    x ∉ name.toList := by
  obtain ⟨p, ps, -, hname, hp, hps⟩ := h.exists_parts
  have hpart : ∀ q, isPart q → x ∉ q := fun q hq hmem =>
    absurd (isLow_of_isPart hq x hmem) (Bool.eq_false_iff.mp hx)
  rw [hname, List.mem_append, List.mem_flatMap]
  rintro (hmem | ⟨q, hq, hmem⟩)
  · exact hpart p hp hmem
  · rcases List.mem_cons.mp hmem with hunderscore | hmem
    · exact hx' hunderscore
    · exact hpart q (hps q hq) hmem

/-- **The parts of a name in camel form**: all but the first start with a capital. -/
theorem toList_parameterName {p : List Char} (hname : IsSnake name)
    (hparts : name.toList.splitOn '_' = p :: ps) :
    (parameterName name).toList = p ++ ps.flatMap raise := by
  have hspace : name.toList.filter (· ≠ ' ') = name.toList := List.filter_eq_self.mpr fun c hc =>
    decide_eq_true fun hspace =>
      hname.not_mem (by decide) (by decide) (hspace ▸ hc)
  have hall : ∀ q ∈ p :: ps, capitalize q = raise q := fun q hq =>
    capitalize_of_isPart (hname q (hparts ▸ hq))
  rw [parameterName, Naming.decapitalize, String.toList_ofList, normalize, String.toList_ofList,
    hspace, hparts, List.flatMap_congr hall, List.flatMap_cons]
  exact decapitalize_raise (hname p (hparts ▸ List.mem_cons_self)) _

/-! ### Back to snake case -/

theorem raise_of_isPart {p : List Char} (h : isPart p) : ∃ c d rest, p = c :: d :: rest ∧
    raise p = c.toUpper :: d :: rest ∧ c.isLower ∧ ∀ x ∈ d :: rest, isLow x := by
  obtain ⟨c, d, rest, rfl, hc, hrest⟩ := exists_of_isPart h
  exact ⟨c, d, rest, rfl, rfl, hc, hrest⟩

theorem splitRuns_cons_of_isUpper_eq_false (h : a.isUpper = false) (s : List Char) :
    splitRuns (a :: s) = a :: splitRuns s := by
  match s with
  | [] => rfl
  | [_] => rfl
  | b :: c :: rest => rw [splitRuns, h, Bool.false_and, Bool.false_and, if_neg Bool.false_ne_true]

theorem splitRuns_cons_cons_of_isUpper_eq_false (a : Char) (h : b.isUpper = false) (s : List Char) :
    splitRuns (a :: b :: s) = a :: splitRuns (b :: s) := by
  match s with
  | [] => rfl
  | c :: rest => rw [splitRuns, h, Bool.and_false, Bool.false_and, if_neg Bool.false_ne_true]

theorem splitRuns_append (hw : ∀ c ∈ w, c.isUpper = false) (s : List Char) :
    splitRuns (w ++ s) = w ++ splitRuns s := by
  induction w with
  | nil => rfl
  | cons a w ih =>
    rw [List.cons_append, splitRuns_cons_of_isUpper_eq_false (hw a List.mem_cons_self),
      ih fun c hc => hw c (List.mem_cons_of_mem a hc)]
    rfl

/-- No run of capitals is split: each has a small letter or a digit after it. -/
theorem splitRuns_raised (hw : ∀ c ∈ w, isLow c) (hps : ∀ p ∈ ps, isPart p) :
    splitRuns (w ++ ps.flatMap raise) = w ++ ps.flatMap raise := by
  -- `w` is what stands since the last capital: in a step it becomes the rest of the next part
  have hupper {w : List Char} (hw : ∀ c ∈ w, isLow c) : ∀ c ∈ w, c.isUpper = false :=
    fun c hc => isUpper_of_isLow (hw c hc)
  induction ps generalizing w with
  | nil => exact splitRuns_append (hupper hw) []
  | cons p ps ih =>
    obtain ⟨c, d, rest, -, hraise, -, hrest⟩ := raise_of_isPart (hps p List.mem_cons_self)
    have hd : d.isUpper = false := isUpper_of_isLow (hrest d List.mem_cons_self)
    have hrun := ih hrest fun q hq => hps q (List.mem_cons_of_mem p hq)
    rw [List.flatMap_cons, hraise, splitRuns_append (hupper hw)]
    show w ++ splitRuns (c.toUpper :: d :: (rest ++ ps.flatMap raise)) = _
    rw [splitRuns_cons_cons_of_isUpper_eq_false _ hd]
    exact congrArg (fun t => w ++ c.toUpper :: t) hrun

theorem splitHumps_cons_of_isLow_eq_false (h : isLow a = false) (s : List Char) :
    splitHumps (a :: s) = a :: splitHumps s := by
  match s with
  | [] => rfl
  | b :: rest =>
    rw [isLow] at h
    rw [splitHumps, h, Bool.false_and, if_neg Bool.false_ne_true]

/-- Small letters and digits are parted from a capital after them, and not from each other. -/
theorem splitHumps_append_cons (hne : w ≠ []) (hw : ∀ c ∈ w, isLow c) (hb : b.isUpper)
    (s : List Char) : splitHumps (w ++ b :: s) = w ++ '_' :: splitHumps (b :: s) := by
  induction w with
  | nil => exact absurd rfl hne
  | cons a w ih =>
    have ha : (a.isLower || a.isDigit) = true := hw a List.mem_cons_self
    cases w with
    | nil =>
      show splitHumps (a :: b :: s) = a :: '_' :: splitHumps (b :: s)
      rw [splitHumps, ha, hb, Bool.and_self, if_pos rfl]
    | cons a' w =>
      have ha' : a'.isUpper = false :=
        isUpper_of_isLow (hw a' (List.mem_cons_of_mem a List.mem_cons_self))
      have hrest := ih (List.cons_ne_nil a' w) fun c hc => hw c (List.mem_cons_of_mem a hc)
      show splitHumps (a :: a' :: (w ++ b :: s)) = _
      rw [splitHumps, ha', Bool.and_false, if_neg Bool.false_ne_true]
      exact congrArg (a :: ·) hrest

theorem splitHumps_of_no_upper (hw : ∀ c ∈ w, c.isUpper = false) : splitHumps w = w := by
  fun_induction splitHumps w with
  | case1 a b rest hsplit ih =>
    have hb : b.isUpper = false := hw b (List.mem_cons_of_mem a List.mem_cons_self)
    rw [hb, Bool.and_false] at hsplit
    exact absurd hsplit Bool.false_ne_true
  | case2 a b rest hsplit ih =>
    exact congrArg (a :: ·) (ih fun c hc => hw c (List.mem_cons_of_mem a hc))
  | case3 s hshort => rfl

/-- **An underscore comes back before every capital.** -/
theorem splitHumps_raised (hne : w ≠ []) (hw : ∀ c ∈ w, isLow c) (hps : ∀ p ∈ ps, isPart p) :
    splitHumps (w ++ ps.flatMap raise) = w ++ ps.flatMap fun p => '_' :: raise p := by
  induction ps generalizing w with
  | nil => rw [List.flatMap_nil, List.flatMap_nil, List.append_nil,
      splitHumps_of_no_upper fun c hc => isUpper_of_isLow (hw c hc)]
  | cons p ps ih =>
    obtain ⟨c, d, rest, -, hraise, hc, hrest⟩ := raise_of_isPart (hps p List.mem_cons_self)
    have hupper : c.toUpper.isUpper := isUpper_toUpper hc
    have hhumps := ih (List.cons_ne_nil d rest) hrest fun q hq => hps q (List.mem_cons_of_mem p hq)
    rw [List.flatMap_cons, List.flatMap_cons, hraise]
    show splitHumps (w ++ c.toUpper :: (d :: rest ++ ps.flatMap raise)) = _
    rw [splitHumps_append_cons hne hw hupper, splitHumps_cons_of_isLow_eq_false
      (isLow_of_isUpper hupper), hhumps]
    rfl

theorem map_toLower_of_no_upper (hw : ∀ c ∈ w, c.isUpper = false) : w.map Char.toLower = w :=
  (List.map_congr_left fun c hc => Char.toLower_eq_of_not_isUpper
    (Bool.eq_false_iff.mp (hw c hc))).trans (List.map_id' w)

theorem map_toLower_of_isLow (hw : ∀ c ∈ w, isLow c) : w.map Char.toLower = w :=
  map_toLower_of_no_upper fun c hc => isUpper_of_isLow (hw c hc)

theorem map_toLower_raise {p : List Char} (h : isPart p) : (raise p).map Char.toLower = p := by
  obtain ⟨c, d, rest, rfl, hraise, hc, hrest⟩ := raise_of_isPart h
  rw [hraise, List.map_cons, toLower_toUpper hc, map_toLower_of_isLow hrest]

theorem map_toLower_raised (hw : ∀ c ∈ w, isLow c) (hps : ∀ p ∈ ps, isPart p) :
    (w ++ ps.flatMap fun p => '_' :: raise p).map Char.toLower = w ++ ps.flatMap ('_' :: ·) := by
  have hparts : ∀ p ∈ ps, ('_' :: raise p).map Char.toLower = '_' :: p := fun p hp =>
    congrArg ('_' :: ·) (map_toLower_raise (hps p hp))
  rw [List.map_append, map_toLower_of_isLow hw, List.map_flatMap, List.flatMap_congr hparts]

theorem collapseUnderscores_cons (h : a ≠ '_') (s : List Char) :
    collapseUnderscores (a :: s) = a :: collapseUnderscores s := by
  match s with
  | [] => rfl
  | b :: rest => rw [collapseUnderscores, if_neg fun hboth => h hboth.1]

theorem collapseUnderscores_append (hw : ∀ c ∈ w, isLow c) (s : List Char) :
    collapseUnderscores (w ++ s) = w ++ collapseUnderscores s := by
  induction w with
  | nil => rfl
  | cons a w ih =>
    rw [List.cons_append, collapseUnderscores_cons
      (ne_underscore_of_isLow (hw a List.mem_cons_self)),
      ih fun c hc => hw c (List.mem_cons_of_mem a hc)]
    rfl

/-- No underscore of a snake-case name stands beside another one. -/
theorem collapseUnderscores_joined (hw : ∀ c ∈ w, isLow c) (hps : ∀ p ∈ ps, isPart p) :
    collapseUnderscores (w ++ ps.flatMap ('_' :: ·)) = w ++ ps.flatMap ('_' :: ·) := by
  induction ps generalizing w with
  | nil => exact collapseUnderscores_append hw []
  | cons p ps ih =>
    have hp : isPart p := hps p List.mem_cons_self
    have hothers := ih (isLow_of_isPart hp) fun q hq => hps q (List.mem_cons_of_mem _ hq)
    obtain ⟨c, d, rest, rfl, hc, -⟩ := exists_of_isPart hp
    have hne : c ≠ '_' := ne_underscore_of_isLow (isLow_of_isLower hc)
    rw [List.flatMap_cons, collapseUnderscores_append hw]
    show w ++ collapseUnderscores ('_' :: c :: (d :: rest ++ ps.flatMap ('_' :: ·))) = _
    rw [collapseUnderscores, if_neg fun hboth => hne hboth.2]
    exact congrArg (fun t => w ++ '_' :: t) hothers

/-- Trimming leaves a text alone that neither starts nor ends with an underscore. -/
theorem trimUnderscores_of_ends (hhead : ∀ c ∈ s.head?, c ≠ '_')
    (hlast : ∀ c ∈ s.getLast?, c ≠ '_') : trimUnderscores s = s := by
  have hdrop : ∀ t : List Char, (∀ c ∈ t.head?, c ≠ '_') → t.dropWhile (· = '_') = t := by
    intro t ht
    cases t with
    | nil => rfl
    | cons c t => exact List.dropWhile_cons_of_neg (by simpa using ht c rfl)
  rw [trimUnderscores, hdrop s hhead, hdrop s.reverse (by rwa [List.head?_reverse]),
    List.reverse_reverse]

theorem getLast?_joined (hne : w ≠ []) (hw : ∀ c ∈ w, isLow c) (hps : ∀ p ∈ ps, isPart p) :
    ∀ c ∈ (w ++ ps.flatMap ('_' :: ·)).getLast?, isLow c := by
  induction ps generalizing w with
  | nil =>
    intro c hc
    rw [List.flatMap_nil, List.append_nil] at hc
    exact hw c (List.mem_of_mem_getLast? hc)
  | cons p ps ih =>
    have hp : isPart p := hps p List.mem_cons_self
    have hsplit : w ++ ('_' :: p ++ ps.flatMap ('_' :: ·)) =
        (w ++ ['_']) ++ (p ++ ps.flatMap ('_' :: ·)) := by
      rw [List.append_assoc]
      rfl
    have hne' : p ++ ps.flatMap ('_' :: ·) ≠ [] :=
      List.append_ne_nil_of_left_ne_nil (ne_nil_of_isPart hp) _
    rw [List.flatMap_cons, hsplit, List.getLast?_append_of_ne_nil _ hne']
    exact ih (ne_nil_of_isPart hp) (isLow_of_isPart hp) fun q hq =>
      hps q (List.mem_cons_of_mem _ hq)

/-- **A snake-case name comes back from its camel form.** -/
theorem IsSnake.snakeWord_parameterName (h : IsSnake name) :
    snakeWord (parameterName name).toList = name.toList := by
  obtain ⟨p, ps, hparts, hname, hp, hps⟩ := h.exists_parts
  have hne : p ≠ [] := ne_nil_of_isPart hp
  have hlow : ∀ c ∈ p, isLow c := isLow_of_isPart hp
  rw [snakeWord, toList_parameterName h hparts, splitRuns_raised hlow hps,
    splitHumps_raised hne hlow hps, map_toLower_raised hlow hps,
    collapseUnderscores_joined hlow hps, hname]
  refine trimUnderscores_of_ends (fun c hc => ?_) fun c hc => ?_
  · rw [List.head?_append_of_ne_nil _ hne] at hc
    exact ne_underscore_of_isLow (hlow c (List.mem_of_mem_head? hc))
  · exact ne_underscore_of_isLow (getLast?_joined hne hlow hps c hc)

/-! ### The safe form -/

theorem isWordChar_of_isLow (h : isLow c) : isWordChar c := by
  rcases Bool.or_eq_true_iff.mp h with hlower | hdigit
  · simp [isWordChar, Char.isAlphanum, Char.isAlpha, hlower]
  · simp [isWordChar, Char.isAlphanum, hdigit]

theorem isWordChar_of_isUpper (h : c.isUpper) : isWordChar c := by
  simp [isWordChar, Char.isAlphanum, Char.isAlpha, h]

/-- A name in camel form has small letters, digits and capitals. -/
theorem mem_raised (hw : ∀ c ∈ w, isLow c) (hps : ∀ p ∈ ps, isPart p)
    (hc : c ∈ w ++ ps.flatMap raise) : isLow c ∨ c.isUpper := by
  rcases List.mem_append.mp hc with hmem | hmem
  · exact Or.inl (hw c hmem)
  · obtain ⟨p, hp, hmem⟩ := List.mem_flatMap.mp hmem
    obtain ⟨a, d, rest, -, hraise, ha, hrest⟩ := raise_of_isPart (hps p hp)
    rw [hraise] at hmem
    rcases List.mem_cons.mp hmem with rfl | hmem
    · exact Or.inr (isUpper_toUpper ha)
    · exact Or.inl (hrest c hmem)

theorem ne_underscore_of_isUpper (h : c.isUpper) : c ≠ '_' := by
  rintro rfl
  exact absurd h (by decide)

/-- A word of letters and digits is plain as it stands. -/
theorem plainWord_of_letters (hne : s ≠ []) (hs : ∀ c ∈ s, isWordChar c ∧ c ≠ '_') :
    plainWord s = s := by
  have htrim : trimUnderscores s = s :=
    trimUnderscores_of_ends (fun c hc => (hs c (List.mem_of_mem_head? hc)).2)
      fun c hc => (hs c (List.mem_of_mem_getLast? hc)).2
  rw [plainWord_of_chars (fun c hc => (hs c hc).1) (htrim.symm ▸ hne), htrim]

theorem IsSnake.plainWord_parameterName (h : IsSnake name) :
    plainWord (parameterName name).toList = (parameterName name).toList := by
  obtain ⟨p, ps, hparts, -, hp, hps⟩ := h.exists_parts
  have hne : p ++ ps.flatMap raise ≠ [] :=
    List.append_ne_nil_of_left_ne_nil (ne_nil_of_isPart hp) _
  rw [toList_parameterName h hparts]
  refine plainWord_of_letters hne fun c hc => ?_
  rcases mem_raised (isLow_of_isPart hp) hps hc with hlow | hupper
  · exact ⟨isWordChar_of_isLow hlow, ne_underscore_of_isLow hlow⟩
  · exact ⟨isWordChar_of_isUpper hupper, ne_underscore_of_isUpper hupper⟩

/-- **The safe form of a parameter is the snake-case name that it has in the schema.** -/
theorem IsSnake.safeForm_parameterName (h : IsSnake name) :
    Scope.safeForm (parameterName name) .snake = name := by
  obtain ⟨p, ps, -, hname, hp, -⟩ := h.exists_parts
  obtain ⟨c, d, rest, rfl, hc, -⟩ := exists_of_isPart hp
  have hword : wordForm (parameterName name).toList .snake = name.toList := by
    rw [wordForm, h.plainWord_parameterName, h.snakeWord_parameterName]
  have hguarded : guarded name.toList = name.toList := by
    rw [hname, List.cons_append, guarded, isDigit_of_isLower hc, if_neg Bool.false_ne_true]
  rw [Scope.safeForm_eq_guarded, hword, hguarded, String.ofList_toList]

end Naming
end TrackingPlan
