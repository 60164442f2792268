import TrackingPlan.Json.Basic
import TrackingPlan.Number.Digits
import TrackingPlan.Number.Reader
import TrackingPlan.Text.Hexadecimal

/-!
# Reading JSON

White space is the space, the tab and the two line ends. Besides the numbers of the standard the
words `NaN`, `Infinity` and `-Infinity` are read as doubles; a number with a fraction or an
exponent is a double too, any other one an integer. Of several members with one name the last
gives the value. A control character below U+0020 may not stand in a string. Lists and objects
are read up to a given depth, and integers up to a fixed number of digits.

An escape may be half of a surrogate pair without the other half. Such a half is no character, and
values hold texts of characters only. So a mark is read in its place, and where all else is well
the text is set aside for its sake.

Key definitions: `Json.Fault`, `Json.readString`, `Json.hasLoneHalf`, `Json.read`.
-/

namespace TrackingPlan
namespace Json

/-- Why a text gives no value: it is no JSON text, or it goes beyond one of the limits. The
first reason that a reader from left to right meets counts. -/
inductive Fault where
  | malformed
  | tooDeep
  | integerTooLong
  /-- The text is JSON within the limits, but a string in it is no text of characters. -/
  | loneHalf
  deriving DecidableEq, Repr

/-- What is read from the start of a text, with the rest of it. -/
abbrev Reading (α : Type) := Except Fault (α × List Char)

/-- White space between the tokens of a document. -/
def isSpace (c : Char) : Bool := c = ' ' || c = '\t' || c = '\n' || c = '\r'

/-- The rest of a text after white space. -/
def skipSpace (s : List Char) : List Char := s.dropWhile isSpace

/-- The value of four hexadecimal digits. -/
def hexUnit? (a b c d : Char) : Option Nat := do
  let a ← Text.hexDigit? a
  let b ← Text.hexDigit? b
  let c ← Text.hexDigit? c
  let d ← Text.hexDigit? d
  return ((a * 16 + b) * 16 + c) * 16 + d

/-- The character that a letter after a backslash stands for. -/
def escaped? : Char → Option Char
  | '"' => some '"'
  | '\\' => some '\\'
  | '/' => some '/'
  | 'b' => some '\x08'
  | 'f' => some '\x0c'
  | 'n' => some '\n'
  | 'r' => some '\r'
  | 't' => some '\t'
  | _ => none

/-- Is the number the first half of a surrogate pair? -/
def isHighHalf (n : Nat) : Bool := 0xD800 ≤ n && n < 0xDC00

/-- Is the number the second half of a surrogate pair? -/
def isLowHalf (n : Nat) : Bool := 0xDC00 ≤ n && n < 0xE000

/-- What is read in the place of a half of a surrogate pair that stands alone. -/
def halfMark : Char := '\ufffd'

/-- The rest of a string after its opening quote, up to the closing one. Two escaped halves of
a surrogate pair are one character. -/
def readString : List Char → Option (List Char × List Char)
  | [] => none
  | '"' :: rest => some ([], rest)
  | '\\' :: 'u' :: a :: b :: c :: d :: rest =>
    match hexUnit? a b c d with
    | none => none
    | some n =>
      if isHighHalf n then
        match rest with
        | '\\' :: 'u' :: a' :: b' :: c' :: d' :: rest' =>
          match hexUnit? a' b' c' d' with
          | none => none
          | some m =>
            if isLowHalf m then
              (readString rest').map fun (s, r) =>
                (Char.ofNat (0x10000 + (n - 0xD800) * 0x400 + (m - 0xDC00)) :: s, r)
            else (readString ('\\' :: 'u' :: a' :: b' :: c' :: d' :: rest')).map
              fun (s, r) => (halfMark :: s, r)
        | rest => (readString rest).map fun (s, r) => (halfMark :: s, r)
      else if isLowHalf n then (readString rest).map fun (s, r) => (halfMark :: s, r)
      else (readString rest).map fun (s, r) => (Char.ofNat n :: s, r)
  | '\\' :: c :: rest =>
    match escaped? c with
    | none => none
    | some x => (readString rest).map fun (s, r) => (x :: s, r)
  | c :: rest =>
    if c.toNat < 0x20 then none
    else (readString rest).map fun (s, r) => (c :: s, r)

/-- Is an escape in the text half of a surrogate pair that stands without the other half? -/
def hasLoneHalf : List Char → Bool
  | [] => false
  | '\\' :: 'u' :: a :: b :: c :: d :: rest =>
    match hexUnit? a b c d with
    | none => hasLoneHalf (a :: b :: c :: d :: rest)
    | some n =>
      if isHighHalf n then
        match rest with
        | '\\' :: 'u' :: a' :: b' :: c' :: d' :: rest' =>
          match hexUnit? a' b' c' d' with
          | none => true
          | some m => !isLowHalf m || hasLoneHalf rest'
        | _ => true
      else isLowHalf n || hasLoneHalf rest
  | '\\' :: _ :: rest => hasLoneHalf rest
  | _ :: rest => hasLoneHalf rest

/-- The digits of a whole part: a zero stands alone. -/
def wholeDigits : List Char → List Char × List Char
  | '0' :: rest => (['0'], rest)
  | s => Double.digitRun s

/-- The fraction digits after a point, when there is a point and a digit after it. -/
def fractionDigits? : List Char → Option (List Char × List Char)
  | '.' :: rest =>
    let (digits, rest) := Double.digitRun rest
    if digits.isEmpty then none else some (digits, rest)
  | _ => none

/-- The exponent after its letter, when there is a letter and a digit after it. -/
def exponentPart? : List Char → Option (Int × List Char)
  | c :: rest =>
    if c = 'e' ∨ c = 'E' then
      let (negative, rest) := Double.splitSign rest
      let (digits, rest) := Double.digitRun rest
      let n : Int := (Double.digitsValue digits : Int)
      if digits.isEmpty then none else some (if negative then -n else n, rest)
    else none
  | [] => none

/-- A number after its sign. -/
def readUnsigned (negative : Bool) (s : List Char) : Reading Json :=
  let (whole, rest) := wholeDigits s
  if whole.isEmpty then .error .malformed
  else
    let fraction := fractionDigits? rest
    let (digits, rest) := fraction.getD ([], rest)
    let power := exponentPart? rest
    let (e, rest) := power.getD (0, rest)
    if fraction.isSome || power.isSome then
      .ok (real (Double.ofScientific negative (Double.digitsValue (whole ++ digits))
        (e - (digits.length : Int))), rest)
    else if maxIntegerDigits < whole.length then .error .integerTooLong
    else
      let n : Int := (Double.digitsValue whole : Int)
      .ok (int (if negative then -n else n), rest)

/-- The rest of a text after a word that it starts with. -/
def afterWord? (word s : List Char) : Option (List Char) :=
  if word.isPrefixOf s then some (s.drop word.length) else none

/-- The words that are values. -/
def words : List (List Char × Json) := [
  ("null".toList, null), ("true".toList, bool true), ("false".toList, bool false),
  ("NaN".toList, real .nan), ("Infinity".toList, real (.infinity false)),
  ("-Infinity".toList, real (.infinity true))]

/-- A value that holds no other value and is no string. -/
def readAtom (s : List Char) : Reading Json :=
  match words.findSome? fun (word, v) => (afterWord? word s).map fun rest => (v, rest) with
  | some found => .ok found
  | none => match s with
    | '-' :: rest => readUnsigned true rest
    | _ => readUnsigned false s

mutual

/-- A value at the start of a text, and the rest. The first number bounds the calls, for which
the length of the text is enough; the second one bounds the depth of lists and objects. -/
def readValue : (fuel depth : Nat) → List Char → Reading Json
  | 0, _, _ => .error .malformed
  | _ + 1, _, '"' :: rest => match readString rest with
    | some (s, r) => .ok (str (String.ofList s), r)
    | none => .error .malformed
  | fuel + 1, depth, '[' :: rest =>
    match depth with
    | 0 => .error .tooDeep
    | depth + 1 => match skipSpace rest with
      | ']' :: r => .ok (arr [], r)
      | r => (readItems fuel depth r).map fun (items, r) => (arr items, r)
  | fuel + 1, depth, '{' :: rest =>
    match depth with
    | 0 => .error .tooDeep
    | depth + 1 => match skipSpace rest with
      | '}' :: r => .ok (obj [], r)
      | r => (readMembers fuel depth r).map fun (members, r) => (obj (Assoc.ofPairs members), r)
  | _ + 1, _, s => readAtom s

/-- The items of a list up to its end; there is at least one. -/
def readItems : (fuel depth : Nat) → List Char → Reading (List Json)
  | 0, _, _ => .error .malformed
  | fuel + 1, depth, s =>
    match readValue fuel depth s with
    | .error e => .error e
    | .ok (v, rest) =>
      match skipSpace rest with
      | ']' :: r => .ok ([v], r)
      | ',' :: r => (readItems fuel depth (skipSpace r)).map fun (vs, r) => (v :: vs, r)
      | _ => .error .malformed

/-- The members of an object up to its end; there is at least one. -/
def readMembers : (fuel depth : Nat) → List Char → Reading (List (String × Json))
  | 0, _, _ => .error .malformed
  | fuel + 1, depth, '"' :: s =>
    match readString s with
    | none => .error .malformed
    | some (key, rest) =>
      match skipSpace rest with
      | ':' :: r =>
        match readValue fuel depth (skipSpace r) with
        | .error e => .error e
        | .ok (v, rest) =>
          match skipSpace rest with
          | '}' :: r => .ok ([(String.ofList key, v)], r)
          | ',' :: r => (readMembers fuel depth (skipSpace r)).map
            fun (ms, r) => ((String.ofList key, v) :: ms, r)
          | _ => .error .malformed
      | _ => .error .malformed
  | _ + 1, _, _ => .error .malformed

end

/-- The value that a text writes, when lists and objects may stand in each other so deep. -/
def read (depth : Nat) (text : String) : Except Fault Json :=
  let s := text.toList
  match readValue (2 * s.length + 2) depth (skipSpace s) with
  | .ok (v, rest) =>
    if !(skipSpace rest).isEmpty then .error .malformed
    else if hasLoneHalf s then .error .loneHalf
    else .ok v
  | .error e => .error e

end Json
end TrackingPlan
