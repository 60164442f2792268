import TrackingPlan.Proofs.Assoc
import TrackingPlan.Proofs.Json.Plain

/-!
# What was written is read back

A value without doubles that was written over several lines is read back as it is, when it keeps
within the limits for reading. The proof follows the value: a list is read item by item, each of
them with what was written after it, and in the same way an object.

Key definitions: `Json.Fits`, `Json.ReadsBack`.
Key theorems: `Json.readsBack_arr`, `Json.readsBack_obj`, `Json.read_pretty`,
`Json.read_of_manyDigits`.
-/

namespace TrackingPlan
namespace Json

variable {fuel depth : Nat} {v : Json} {s rest r : List Char} {items : List Json}

/-! ### One step of reading -/

theorem readValue_str {key : List Char} (h : readString s = some (key, rest)) :
    readValue (fuel + 1) depth ('"' :: s) = .ok (str (String.ofList key), rest) := by
  rw [readValue, h]

theorem readValue_atom {c : Char} (hc : c ∉ ['"', '[', '\x7b']) :
    readValue (fuel + 1) depth (c :: s) = readAtom (c :: s) := by
  simp only [List.mem_cons, List.not_mem_nil, or_false, not_or] at hc
  obtain ⟨hquote, hlist, hobject⟩ := hc
  rw [readValue]
  · exact fun _ h => hquote (List.cons.inj h).1
  · exact fun _ h => hlist (List.cons.inj h).1
  · exact fun _ h => hobject (List.cons.inj h).1

theorem readValue_items {c : Char} (h : (skipSpace s).head? = some c) (hc : c ≠ ']') :
    readValue (fuel + 1) (depth + 1) ('[' :: s) =
      (readItems fuel depth (skipSpace s)).map fun (items, r) => (arr items, r) := by
  rw [readValue]
  split
  · rename_i heq
    rw [heq] at h
    exact absurd (Option.some.inj h).symm hc
  · rfl

theorem readValue_members {c : Char} (h : (skipSpace s).head? = some c) (hc : c ≠ '\x7d') :
    readValue (fuel + 1) (depth + 1) ('\x7b' :: s) =
      (readMembers fuel depth (skipSpace s)).map
        fun (members, r) => (obj (Assoc.ofPairs members), r) := by
  rw [readValue]
  split
  · rename_i heq
    rw [heq] at h
    exact absurd (Option.some.inj h).symm hc
  · rfl

theorem readItems_last (h : readValue fuel depth s = .ok (v, rest))
    (hrest : skipSpace rest = ']' :: r) : readItems (fuel + 1) depth s = .ok ([v], r) := by
  simp only [readItems, h, hrest]

theorem readItems_more (h : readValue fuel depth s = .ok (v, rest))
    (hrest : skipSpace rest = ',' :: r) : readItems (fuel + 1) depth s =
      (readItems fuel depth (skipSpace r)).map fun (vs, r) => (v :: vs, r) := by
  simp only [readItems, h, hrest]

section

variable {key a t : List Char} (hkey : readString s = some (key, a))
  (hcolon : skipSpace a = ':' :: t) (hvalue : readValue fuel depth (skipSpace t) = .ok (v, rest))

include hkey hcolon hvalue

theorem readMembers_last (hrest : skipSpace rest = '\x7d' :: r) :
    readMembers (fuel + 1) depth ('"' :: s) = .ok ([(String.ofList key, v)], r) := by
  simp only [readMembers, hkey, hcolon, hvalue, hrest]

theorem readMembers_more (hrest : skipSpace rest = ',' :: r) :
    readMembers (fuel + 1) depth ('"' :: s) = (readMembers fuel depth (skipSpace r)).map
      fun (ms, r) => ((String.ofList key, v) :: ms, r) := by
  simp only [readMembers, hkey, hcolon, hvalue, hrest]

end

/-! ### The written text -/

/-- What is written after an item or a member: the end of its container, or a comma and what
follows. -/
def separated (last : Bool) (rest : List Char) : List Char := if last then rest else ',' :: rest

theorem toList_prettyItems_cons (d : Nat) (x : Json) (items : List Json) :
    (prettyItems d (x :: items)).toList ++ rest = (newLine d).toList ++
      ((prettyAt d x).toList ++
        separated items.isEmpty ((prettyItems d items).toList ++ rest)) := by
  rw [prettyItems]
  cases items <;> simp [separated, List.append_assoc]

theorem toList_prettyMembers_cons (d : Nat) (k : String) (x : Json)
    (members : List (String × Json)) :
    (prettyMembers d ((k, x) :: members)).toList ++ rest = (newLine d).toList ++
      ('"' :: (k.toList.flatMap Text.escape ++ '"' :: ':' :: ' ' :: ((prettyAt d x).toList ++
        separated members.isEmpty ((prettyMembers d members).toList ++ rest)))) := by
  rw [prettyMembers]
  cases members <;> simp [separated, Text.quote, Text.quoted, List.append_assoc]

theorem toList_prettyAt_arr {items : List Json} (h : items ≠ []) (d : Nat) :
    (prettyAt d (arr items)).toList ++ rest =
      '[' :: ((prettyItems (d + 1) items).toList ++ ((newLine d).toList ++ ']' :: rest)) := by
  have hsome : items.isEmpty = false := by simpa using h
  rw [prettyAt, hsome]
  simp [List.append_assoc]

theorem toList_prettyAt_obj {members : List (String × Json)} (h : members ≠ []) (d : Nat) :
    (prettyAt d (obj members)).toList ++ rest =
      '\x7b' :: ((prettyMembers (d + 1) members).toList ++
        ((newLine d).toList ++ '\x7d' :: rest)) := by
  have hsome : members.isEmpty = false := by simpa using h
  rw [prettyAt, hsome]
  simp [List.append_assoc]

theorem length_prettyItems_cons (d : Nat) (x : Json) (items : List Json) :
    (prettyAt d x).toList.length + (prettyItems d items).toList.length <
      (prettyItems d (x :: items)).toList.length := by
  have hline := length_newLine_pos d
  rw [prettyItems]
  simp only [String.toList_append, List.length_append]
  omega

theorem length_prettyMembers_cons (d : Nat) (k : String) (x : Json)
    (members : List (String × Json)) :
    (prettyAt d x).toList.length + (prettyMembers d members).toList.length <
      (prettyMembers d ((k, x) :: members)).toList.length := by
  have hline := length_newLine_pos d
  rw [prettyMembers]
  simp only [String.toList_append, List.length_append]
  omega

theorem length_prettyAt_arr {items : List Json} (h : items ≠ []) (d : Nat) :
    (prettyItems (d + 1) items).toList.length < (prettyAt d (arr items)).toList.length := by
  have hsome : items.isEmpty = false := by simpa using h
  have hline := length_newLine_pos d
  simp only [prettyAt, hsome, Bool.false_eq_true, if_false, String.toList_append,
    List.length_append]
  omega

theorem length_prettyAt_obj {members : List (String × Json)} (h : members ≠ []) (d : Nat) :
    (prettyMembers (d + 1) members).toList.length < (prettyAt d (obj members)).toList.length := by
  have hsome : members.isEmpty = false := by simpa using h
  have hline := length_newLine_pos d
  simp only [prettyAt, hsome, Bool.false_eq_true, if_false, String.toList_append,
    List.length_append]
  omega

/-- The first character of an integer is a minus or a digit. -/
theorem toString_int_eq_cons (n : Int) : ∃ c tail, (toString n).toList = c :: tail ∧
    (c = '-' ∨ c.isDigit) := by
  rw [toList_toString_int]
  by_cases hn : 0 ≤ n
  · obtain ⟨c, tail, htail, hc⟩ := exists_digit n.natAbs
    exact ⟨c, tail, by rw [if_pos hn, htail]; rfl, .inr hc⟩
  · exact ⟨'-', _, by rw [if_neg hn]; rfl, .inl rfl⟩

/-- Can a written value start with the character? It is no space, and ends no container. -/
def Starts (c : Char) : Prop := isSpace c = false ∧ c ≠ ']' ∧ c ≠ '\x7d'

theorem starts_of_isDigit {c : Char} (h : c.isDigit) : Starts c := by
  have hnone : c ∉ [' ', '\t', '\n', '\r', ']', '\x7d'] := not_mem_of_isDigit h rfl
  simp only [List.mem_cons, List.not_mem_nil, or_false, not_or] at hnone
  obtain ⟨hblank, htab, hfeed, hreturn, hlist, hobject⟩ := hnone
  exact ⟨by simp [isSpace, hblank, htab, hfeed, hreturn], hlist, hobject⟩

theorem prettyAt_eq_cons (hv : v.isPlain) (d : Nat) :
    ∃ c tail, (prettyAt d v).toList = c :: tail ∧ Starts c := by
  cases v with
  | null => exact ⟨'n', _, by rw [prettyAt]; rfl, by decide, by decide, by decide⟩
  | bool b =>
    cases b with
    | false => exact ⟨'f', _, by rw [prettyAt]; rfl, by decide, by decide, by decide⟩
    | true => exact ⟨'t', _, by rw [prettyAt]; rfl, by decide, by decide, by decide⟩
  | int n =>
    obtain ⟨c, tail, htail, hc⟩ := toString_int_eq_cons n
    refine ⟨c, tail, by rw [prettyAt, scalarText, htail], ?_⟩
    rcases hc with rfl | hc
    · exact ⟨by decide, by decide, by decide⟩
    · exact starts_of_isDigit hc
  | real x => exact absurd hv (by simp [isPlain])
  | str text =>
    refine ⟨'"', text.toList.flatMap Text.escape ++ ['"'], ?_, by decide, by decide, by decide⟩
    rw [prettyAt, scalarText, Text.quote, Text.quoted, String.toList_ofList]
    rfl
  | arr items =>
    refine ⟨'[', (prettyAt d (arr items)).toList.tail, ?_, by decide, by decide, by decide⟩
    rw [prettyAt]
    split <;> simp
  | obj members =>
    refine ⟨'\x7b', (prettyAt d (obj members)).toList.tail, ?_, by decide, by decide, by decide⟩
    rw [prettyAt]
    split <;> simp

/-- There is no space to skip before a value. -/
theorem skipSpace_prettyAt (hv : v.isPlain) (d : Nat) (rest : List Char) :
    skipSpace ((prettyAt d v).toList ++ rest) = (prettyAt d v).toList ++ rest := by
  obtain ⟨c, tail, htail, hstarts⟩ := prettyAt_eq_cons hv d
  rw [htail, List.cons_append, skipSpace_cons hstarts.1]

/-! ### Within the limits -/

/-- The value is plain and within the limits for reading, at some depth that is left. -/
structure Fits (depth : Nat) (v : Json) : Prop where
  plain : v.isPlain
  depth : v.depth ≤ depth
  longest : v.longestInteger ≤ maxIntegerDigits

/-- All items are. -/
structure ItemsFit (depth : Nat) (items : List Json) : Prop where
  plain : areItemsPlain items
  depth : depthOfItems items ≤ depth
  longest : longestOfItems items ≤ maxIntegerDigits

/-- The values of all members are. -/
structure MembersFit (depth : Nat) (members : List (String × Json)) : Prop where
  plain : areMembersPlain members
  depth : depthOfMembers members ≤ depth
  longest : longestOfMembers members ≤ maxIntegerDigits

variable {x : Json} {k : String} {members : List (String × Json)}

theorem Fits.of_arr (h : Fits depth (arr items)) :
    ∃ left, depth = left + 1 ∧ ItemsFit left items := by
  have hdepth : depthOfItems items + 1 ≤ depth := h.depth
  obtain ⟨left, rfl⟩ : ∃ left, depth = left + 1 := ⟨depth - 1, by omega⟩
  exact ⟨left, rfl, h.plain, by omega, h.longest⟩

theorem Fits.of_obj (h : Fits depth (obj members)) :
    (Assoc.keys members).Nodup ∧ ∃ left, depth = left + 1 ∧ MembersFit left members := by
  have hdepth : depthOfMembers members + 1 ≤ depth := h.depth
  have hplain := h.plain
  simp only [isPlain, Bool.and_eq_true, decide_eq_true_eq] at hplain
  obtain ⟨left, rfl⟩ : ∃ left, depth = left + 1 := ⟨depth - 1, by omega⟩
  exact ⟨hplain.1, left, rfl, hplain.2, by omega, h.longest⟩

theorem ItemsFit.cons (h : ItemsFit depth (x :: items)) : Fits depth x ∧ ItemsFit depth items := by
  have hplain := h.plain
  have hdepth := h.depth
  have hlongest := h.longest
  simp only [areItemsPlain, Bool.and_eq_true, depthOfItems, longestOfItems, Nat.max_le] at *
  exact ⟨⟨hplain.1, hdepth.1, hlongest.1⟩, ⟨hplain.2, hdepth.2, hlongest.2⟩⟩

theorem MembersFit.cons (h : MembersFit depth ((k, x) :: members)) :
    Fits depth x ∧ MembersFit depth members := by
  have hplain := h.plain
  have hdepth := h.depth
  have hlongest := h.longest
  simp only [areMembersPlain, Bool.and_eq_true, depthOfMembers, longestOfMembers, Nat.max_le] at *
  exact ⟨⟨hplain.1, hdepth.1, hlongest.1⟩, ⟨hplain.2, hdepth.2, hlongest.2⟩⟩

/-! ### Reading it back -/

/-- The value is read back from where it was written, with what follows it left over. -/
def ReadsBack (v : Json) : Prop :=
  ∀ {fuel depth d : Nat} {rest : List Char}, Fits depth v → Ends rest →
    (prettyAt d v).toList.length ≤ fuel →
    readValue (fuel + 1) depth ((prettyAt d v).toList ++ rest) = .ok (v, rest)

/-- The items are read back up to the end of their list. -/
def ItemsReadBack (items : List Json) : Prop :=
  ∀ {fuel depth d : Nat} (e : Nat) (rest : List Char), items ≠ [] → ItemsFit depth items →
    (prettyItems d items).toList.length ≤ fuel →
    readItems (fuel + 1) depth (skipSpace ((prettyItems d items).toList ++
      ((newLine e).toList ++ ']' :: rest))) = .ok (items, rest)

/-- The members are read back up to the end of their object. -/
def MembersReadBack (members : List (String × Json)) : Prop :=
  ∀ {fuel depth d : Nat} (e : Nat) (rest : List Char), members ≠ [] → MembersFit depth members →
    (prettyMembers d members).toList.length ≤ fuel →
    readMembers (fuel + 1) depth (skipSpace ((prettyMembers d members).toList ++
      ((newLine e).toList ++ '\x7d' :: rest))) = .ok (members, rest)

theorem readsBack_null : ReadsBack null := by
  intro fuel depth d rest _ _ _
  rw [prettyAt, ← readAtom_null rest]
  exact readValue_atom (by decide)

theorem readsBack_bool (b : Bool) : ReadsBack (bool b) := by
  intro fuel depth d rest _ _ _
  rw [prettyAt, ← readAtom_bool b rest]
  cases b <;> exact readValue_atom (by decide)

theorem readsBack_int (n : Int) : ReadsBack (int n) := by
  intro fuel depth d rest hfits hends _
  obtain ⟨c, tail, htail, hc⟩ := toString_int_eq_cons n
  have hread := readAtom_int hends hfits.longest
  have hopens : c ∉ ['"', '[', '\x7b'] := by
    rcases hc with rfl | hc
    · decide
    · exact not_mem_of_isDigit hc rfl
  rw [prettyAt, scalarText]
  rw [htail, List.cons_append] at hread ⊢
  rw [readValue_atom hopens, hread]

theorem readsBack_str (text : String) : ReadsBack (str text) := by
  intro fuel depth d rest _ _ _
  rw [prettyAt, scalarText, Text.quote, Text.quoted, String.toList_ofList, List.cons_append,
    List.cons_append, List.append_assoc, List.singleton_append,
    readValue_str (readString_quoted text.toList rest), String.ofList_toList]

/-! ### Lists -/

theorem itemsReadBack_nil : ItemsReadBack [] := fun _ _ h => absurd rfl h

theorem itemsReadBack_cons (hx : ReadsBack x) (hitems : ItemsReadBack items) :
    ItemsReadBack (x :: items) := by
  intro fuel depth d e rest _ hfits hfuel
  obtain ⟨hfirst, hothers⟩ := hfits.cons
  -- Fuel is counted in characters, and the text of each part is shorter than the whole.
  have hlength := length_prettyItems_cons d x items
  obtain ⟨left, rfl⟩ : ∃ left, fuel = left + 1 := ⟨fuel - 1, by omega⟩
  have hlengthFirst : (prettyAt d x).toList.length ≤ left := by omega
  have hlengthOthers : (prettyItems d items).toList.length ≤ left := by omega
  rw [toList_prettyItems_cons, skipSpace_newLine, skipSpace_prettyAt hfirst.plain]
  cases items with
  | nil =>
    have hread := hx hfirst (ends_newLine e (']' :: rest)) hlengthFirst
    refine readItems_last hread ?_
    rw [skipSpace_newLine]
    exact skipSpace_cons rfl rest
  | cons y items =>
    have hread := hx hfirst (ends_comma ((prettyItems d (y :: items)).toList ++
      ((newLine e).toList ++ ']' :: rest))) hlengthFirst
    have hrest := hitems e rest (List.cons_ne_nil y items) hothers hlengthOthers
    refine (readItems_more hread (skipSpace_cons rfl _)).trans ?_
    rw [hrest]
    rfl

theorem readsBack_arr (h : ItemsReadBack items) : ReadsBack (arr items) := by
  intro fuel depth d rest hfits _ hfuel
  obtain ⟨left, rfl, hitems⟩ := hfits.of_arr
  cases items with
  | nil =>
    have hempty : (prettyAt d (arr [])).toList = ['[', ']'] := by simp [prettyAt]
    rw [hempty, List.cons_append, List.singleton_append, readValue, skipSpace_cons rfl]
    rfl
  | cons x items =>
    have hne := List.cons_ne_nil x items
    have hlength := length_prettyAt_arr hne d
    obtain ⟨fuel, rfl⟩ : ∃ n, fuel = n + 1 := ⟨fuel - 1, by omega⟩
    have hinner : (prettyItems (d + 1) (x :: items)).toList.length ≤ fuel := by omega
    have hread := h d rest hne hitems hinner
    obtain ⟨c, tail, htail, hstarts⟩ := prettyAt_eq_cons hitems.cons.1.plain (d + 1)
    rw [toList_prettyAt_arr hne, readValue_items ?_ hstarts.2.1, hread]
    · rfl
    · rw [toList_prettyItems_cons, skipSpace_newLine, skipSpace_prettyAt hitems.cons.1.plain,
        htail]
      rfl

/-! ### Objects -/

theorem membersReadBack_nil : MembersReadBack [] := fun _ _ h => absurd rfl h

theorem membersReadBack_cons (k : String) (hx : ReadsBack x) (hmembers : MembersReadBack members) :
    MembersReadBack ((k, x) :: members) := by
  intro fuel depth d e rest _ hfits hfuel
  obtain ⟨hfirst, hothers⟩ := hfits.cons
  have hlength := length_prettyMembers_cons d k x members
  obtain ⟨left, rfl⟩ : ∃ left, fuel = left + 1 := ⟨fuel - 1, by omega⟩
  have hlengthFirst : (prettyAt d x).toList.length ≤ left := by omega
  have hlengthOthers : (prettyMembers d members).toList.length ≤ left := by omega
  have hspace (s : List Char) : skipSpace (' ' :: ((prettyAt d x).toList ++ s)) =
      (prettyAt d x).toList ++ s := skipSpace_prettyAt hfirst.plain d s
  rw [toList_prettyMembers_cons, skipSpace_newLine, skipSpace_cons rfl]
  cases members with
  | nil =>
    have hread := hx hfirst (ends_newLine e ('\x7d' :: rest)) hlengthFirst
    rw [← hspace] at hread
    have hlast := readMembers_last (readString_quoted k.toList _) (skipSpace_cons rfl _) hread
      ((skipSpace_newLine e _).trans (skipSpace_cons rfl rest))
    rw [String.ofList_toList] at hlast
    exact hlast
  | cons p members =>
    have hread := hx hfirst (ends_comma ((prettyMembers d (p :: members)).toList ++
      ((newLine e).toList ++ '\x7d' :: rest))) hlengthFirst
    have hrest := hmembers e rest (List.cons_ne_nil p members) hothers hlengthOthers
    rw [← hspace] at hread
    have hmore := readMembers_more (readString_quoted k.toList _) (skipSpace_cons rfl _) hread
      (skipSpace_cons rfl _)
    rw [String.ofList_toList] at hmore
    refine hmore.trans ?_
    rw [hrest]
    rfl

theorem readsBack_obj (h : MembersReadBack members) : ReadsBack (obj members) := by
  intro fuel depth d rest hfits _ hfuel
  obtain ⟨hnames, left, rfl, hmembers⟩ := hfits.of_obj
  cases members with
  | nil =>
    have hempty : (prettyAt d (obj [])).toList = ['\x7b', '\x7d'] := by simp [prettyAt]
    rw [hempty, List.cons_append, List.singleton_append, readValue, skipSpace_cons rfl]
    rfl
  | cons p members =>
    have hne := List.cons_ne_nil p members
    have hlength := length_prettyAt_obj hne d
    obtain ⟨fuel, rfl⟩ : ∃ n, fuel = n + 1 := ⟨fuel - 1, by omega⟩
    have hinner : (prettyMembers (d + 1) (p :: members)).toList.length ≤ fuel := by omega
    have hread := h d rest hne hmembers hinner
    rw [toList_prettyAt_obj hne, readValue_members ?_ (by decide : '"' ≠ '\x7d'), hread]
    · show Except.ok (obj (Assoc.ofPairs (p :: members)), rest) = _
      rw [Assoc.ofPairs_eq hnames]
    · rw [toList_prettyMembers_cons, skipSpace_newLine, skipSpace_cons rfl]
      rfl

mutual

/-- **A plain value within the limits is read back.** -/
theorem readsBack : ∀ v : Json, ReadsBack v
  | null => readsBack_null
  | bool b => readsBack_bool b
  | int n => readsBack_int n
  | real _ => fun hfits => absurd hfits.plain (by simp [isPlain])
  | str text => readsBack_str text
  | arr items => readsBack_arr (itemsReadBack items)
  | obj members => readsBack_obj (membersReadBack members)

theorem itemsReadBack : ∀ items : List Json, ItemsReadBack items
  | [] => itemsReadBack_nil
  | x :: items => itemsReadBack_cons (readsBack x) (itemsReadBack items)

theorem membersReadBack : ∀ members : List (String × Json), MembersReadBack members
  | [] => membersReadBack_nil
  | (k, x) :: members => membersReadBack_cons k (readsBack x) (membersReadBack members)

end

/-- **The text of a plain value within the limits is read as the value.** -/
theorem read_pretty (h : Fits depth v) : read depth v.pretty = .ok v := by
  have hread : readValue (2 * v.pretty.toList.length + 2) depth (v.pretty.toList ++ []) =
      .ok (v, []) := readsBack v h ends_nil (by show v.pretty.toList.length ≤ _; omega)
  rw [List.append_nil] at hread
  have hspace : skipSpace v.pretty.toList = v.pretty.toList := by
    have hskip := skipSpace_prettyAt h.plain 0 []
    rwa [List.append_nil] at hskip
  simp only [read, hspace, hread, hasLoneHalf_pretty h.plain]
  rfl

/-- **A number with too many digits is not read.** -/
theorem read_of_manyDigits {c : Char} {digits : List Char} (hc : c.isDigit) (hzero : c ≠ '0')
    (hdigits : ∀ d ∈ digits, d.isDigit) (hlength : maxIntegerDigits ≤ digits.length) :
    read depth (String.ofList (c :: digits)) = .error .integerTooLong := by
  have hother : c ∉ ['"', '[', '\x7b'] := not_mem_of_isDigit hc rfl
  have hall : ∀ d ∈ c :: digits, d.isDigit := List.forall_mem_cons.mpr ⟨hc, hdigits⟩
  have hrun : Double.digitRun ((c :: digits) ++ []) = (c :: digits, []) :=
    digitRun_append hall fun _ h => nomatch h
  rw [List.append_nil] at hrun
  have hwhole : wholeDigits (c :: digits) = (c :: digits, []) := by
    rw [wholeDigits, hrun]
    exact fun _ h => hzero (List.cons.inj h).1
  have hlong : maxIntegerDigits < (c :: digits).length := Nat.lt_succ_of_le hlength
  have hread : readUnsigned false (c :: digits) = .error .integerTooLong := by
    rw [readUnsigned, hwhole]
    exact if_pos hlong
  simp only [read, String.toList_ofList, skipSpace_cons (starts_of_isDigit hc).1,
    readValue_atom hother, readAtom_digit hc, hread]

end Json
end TrackingPlan
