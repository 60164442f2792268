import TrackingPlan.Proofs.Json.RoundTrip

/-!
# Reading in stages

Lists and objects are read in stages: a part is read, white space is skipped, and the next part is
read. What holds of every stage holds of the whole reading.

Key definitions: `Json.readThen`, `Json.readMore`, `Json.readContents`, `Json.readName`.
Key theorems: `Json.readItems_succ`, `Json.readMembers_succ`, `Json.readValue_list`,
`Json.readValue_object`, `Json.readValue_cases`.
-/

namespace TrackingPlan
namespace Json

variable {α β : Type}

/-! ### The stages -/

/-- A part of a text and, after white space, the part that follows it. -/
def readThen (p : List Char → Reading α) (q : α → List Char → Reading β) (s : List Char) :
    Reading β :=
  (p s).bind fun y => q y.1 (skipSpace y.2)

/-- What follows an item: the end of the container, or a comma and more items. -/
def readMore (close : Char) (next : List Char → Reading (List α)) (x : α) :
    List Char → Reading (List α)
  | [] => .error .malformed
  | c :: r =>
    if c = close then .ok ([x], r)
    else if c = ',' then (next (skipSpace r)).map fun (xs, r) => (x :: xs, r)
    else .error .malformed

/-- What a container holds: nothing, or some items. -/
def readContents (close : Char) (next : List Char → Reading (List α)) :
    List Char → Reading (List α)
  | [] => next []
  | c :: r => if c = close then .ok ([], r) else next (c :: r)

/-- A string between quotes. -/
def readQuoted : List Char → Reading String
  | '"' :: s => match readString s with
    | none => .error .malformed
    | some (x, r) => .ok (String.ofList x, r)
  | _ => .error .malformed

/-- The colon after the name of a member. -/
def readColon (name : String) : List Char → Reading String
  | ':' :: r => .ok (name, r)
  | _ => .error .malformed

/-- The name of a member and the colon. -/
def readName : List Char → Reading String := readThen readQuoted readColon

theorem readItems_succ (fuel depth : Nat) : readItems (fuel + 1) depth =
    readThen (readValue fuel depth) (readMore ']' (readItems fuel depth)) := by
  funext s
  rw [readItems, readThen]
  cases readValue fuel depth s with
  | error e => rfl
  | ok y =>
    obtain ⟨v, rest⟩ := y
    show _ = readMore ']' (readItems fuel depth) v (skipSpace rest)
    cases hrest : skipSpace rest with
    | nil => simp [hrest, readMore]
    | cons c r =>
      by_cases hclose : c = ']'
      · simp [hrest, readMore, hclose]
      · by_cases hcomma : c = ','
        · simp [hrest, readMore, hcomma]
        · simp [hrest, readMore, hclose, hcomma]

theorem readMembers_succ (fuel depth : Nat) : readMembers (fuel + 1) depth =
    readThen readName fun name => readThen (readValue fuel depth) fun v =>
      readMore '\x7d' (readMembers fuel depth) (name, v) := by
  funext s
  rw [readThen, readName, readThen]
  cases s with
  | nil => rfl
  | cons c s =>
    by_cases hquote : c = '"'
    · subst hquote
      rw [readMembers, readQuoted]
      cases hname : readString s with
      | none => rfl
      | some y =>
        obtain ⟨name, rest⟩ := y
        cases hrest : skipSpace rest with
        | nil => simp [hrest, readColon, Except.bind]
        | cons c r =>
          by_cases hcolon : c = ':'
          · subst hcolon
            simp only [hrest, readColon, Except.bind, readThen]
            cases readValue fuel depth (skipSpace r) with
            | error e => rfl
            | ok y =>
              obtain ⟨v, rest⟩ := y
              dsimp only
              cases hrest : skipSpace rest with
              | nil => simp [readMore]
              | cons c r =>
                by_cases hclose : c = '\x7d'
                · simp [readMore, hclose]
                · by_cases hcomma : c = ','
                  · simp [readMore, hcomma]
                  · simp [readMore, hclose, hcomma]
          · simp [hrest, readColon, hcolon, Except.bind]
    · simp [readMembers, readQuoted, hquote, Except.bind]

theorem readValue_nil (fuel depth : Nat) : readValue (fuel + 1) depth [] = readAtom [] := by
  rw [readValue] <;> simp

theorem readValue_quoted (fuel depth : Nat) (s : List Char) :
    readValue (fuel + 1) depth ('"' :: s) =
      (readQuoted ('"' :: s)).map fun (x, r) => (str x, r) := by
  rw [readValue, readQuoted]
  cases readString s <;> rfl

theorem readValue_list (fuel depth : Nat) (s : List Char) :
    readValue (fuel + 1) (depth + 1) ('[' :: s) =
      (readContents ']' (readItems fuel depth) (skipSpace s)).map fun (xs, r) => (arr xs, r) := by
  rw [readValue]
  cases hs : skipSpace s with
  | nil => rfl
  | cons c r =>
    by_cases hclose : c = ']'
    · simp [readContents, hclose, Except.map]
    · simp [readContents, hclose]

theorem readValue_object (fuel depth : Nat) (s : List Char) :
    readValue (fuel + 1) (depth + 1) ('\x7b' :: s) =
      (readContents '\x7d' (readMembers fuel depth) (skipSpace s)).map
        fun (ms, r) => (obj (Assoc.ofPairs ms), r) := by
  rw [readValue]
  cases hs : skipSpace s with
  | nil => rfl
  | cons c r =>
    by_cases hclose : c = '\x7d'
    · simp [readContents, hclose, Except.map, Assoc.ofPairs, Assoc.update]
    · simp [readContents, hclose]

/-- A value is a string, a list, an object, or has no parts. -/
theorem readValue_cases {motive : List Char → Prop} (nil : motive [])
    (string : ∀ s, motive ('"' :: s)) (list : ∀ s, motive ('[' :: s))
    (object : ∀ s, motive ('\x7b' :: s))
    (atom : ∀ c s, c ∉ ['"', '[', '\x7b'] → motive (c :: s)) (s : List Char) : motive s := by
  cases s with
  | nil => exact nil
  | cons c s =>
    by_cases hquote : c = '"'
    · exact hquote ▸ string s
    · by_cases hlist : c = '['
      · exact hlist ▸ list s
      · by_cases hobject : c = '\x7b'
        · exact hobject ▸ object s
        · exact atom c s (by simp [hquote, hlist, hobject])

end Json
end TrackingPlan
