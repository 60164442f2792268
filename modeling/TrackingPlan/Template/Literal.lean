import TrackingPlan.Json.Reader
import TrackingPlan.Text.CharacterName
import TrackingPlan.Text.Printable

/-!
# Literals in templates

A string stands between single or double quotes and may hold escapes: a letter, up to three
octal digits, two, four or eight hexadecimal digits, or the name of a character in braces. Two
escapes with four digits can be the halves of one character. A backslash before a line end takes
the line end away, and before any other character it stays. A character beyond ASCII is turned
into its escape before the escapes are read, so a backslash before it hides that escape.

A number is written with digits that single underscores may part; an integer may have a base in
front, and a decimal integer starts with a zero only if all its digits are zeros. The first digit
is an ASCII one, the others may be of any script, but a number with a point or an exponent has no
value then. A decimal integer beyond a number of digits cannot be read.

Key definitions: `Template.readQuoted`, `Template.unescape?`, `Template.readNumber?`.
-/

namespace TrackingPlan
namespace Template

/-- The text with every character beyond ASCII replaced by its escape. -/
def asciiForm (s : List Char) : List Char :=
  s.flatMap fun c => if c.toNat < 0x80 then [c] else Text.numberEscape c

/-- The character of a number. -/
def charOf? (n : Nat) : Option Char :=
  if h : n.isValidChar then some (Char.ofNatAux n h) else none

/-- The character that hexadecimal digits write. -/
def hexChar? (digits : List Char) : Option Char := (Text.hexValue? digits).bind charOf?

/-- The character whose two halves are the numbers of a surrogate pair. -/
def pairChar? (high low : Nat) : Option Char :=
  if Json.isHighHalf high && Json.isLowHalf low then
    charOf? (0x10000 + (high - 0xD800) * 0x400 + (low - 0xDC00))
  else none

/-- The value of an octal digit. -/
def octalDigit? (c : Char) : Option Nat :=
  if '0' ≤ c ∧ c ≤ '7' then some (c.toNat - '0'.toNat) else none

/-- The character that one to three octal digits write. -/
def octalChar (digits : List Char) : Char :=
  Char.ofNat (digits.foldl (fun n c => 8 * n + (octalDigit? c).getD 0) 0)

/-- The character that a letter after a backslash stands for. -/
def letterEscape? : Char → Option Char
  | '\\' => some '\\'
  | '\'' => some '\''
  | '"' => some '"'
  | 'a' => some '\x07'
  | 'b' => some '\x08'
  | 't' => some '\t'
  | 'n' => some '\n'
  | 'v' => some '\x0b'
  | 'f' => some '\x0c'
  | 'r' => some '\r'
  | _ => none

/-- Is the character an octal digit? -/
def isOctal (c : Char) : Bool := (octalDigit? c).isSome

/-- The character of a name. -/
def namedChar? (name : List Char) : Option Char := (Text.characterNamed? name).bind charOf?

mutual

/-- The text that a text of ASCII characters with escapes stands for; an escape by digits needs
all of them. -/
def decode? : List Char → Option (List Char)
  | [] => some []
  | '\\' :: '\n' :: rest => decode? rest
  | '\\' :: 'N' :: '{' :: rest => decodeNamed? [] rest
  | '\\' :: 'x' :: a :: b :: rest => do
    return (← hexChar? [a, b]) :: (← decode? rest)
  | '\\' :: 'u' :: a :: b :: c :: d :: rest => do
    let n ← Text.hexValue? [a, b, c, d]
    if Json.isHighHalf n then
      match rest with
      | '\\' :: 'u' :: e :: f :: g :: h :: more => do
        return (← pairChar? n (← Text.hexValue? [e, f, g, h])) :: (← decode? more)
      | _ => none
    else return (← charOf? n) :: (← decode? rest)
  | '\\' :: 'U' :: a :: b :: c :: d :: e :: f :: g :: h :: rest => do
    return (← hexChar? [a, b, c, d, e, f, g, h]) :: (← decode? rest)
  | '\\' :: c :: rest =>
    if c = 'x' ∨ c = 'u' ∨ c = 'U' ∨ c = 'N' then none
    else if isOctal c then
      match rest with
      | d :: e :: more =>
        if isOctal d && isOctal e then (decode? more).map (octalChar [c, d, e] :: ·)
        else if isOctal d then (decode? (e :: more)).map (octalChar [c, d] :: ·)
        else (decode? (d :: e :: more)).map (octalChar [c] :: ·)
      | [d] => if isOctal d then some [octalChar [c, d]] else some [octalChar [c], d]
      | [] => some [octalChar [c]]
    else match letterEscape? c with
      | some x => (decode? rest).map (x :: ·)
      | none => (decode? rest).map fun s => '\\' :: c :: s
  | ['\\'] => none
  | c :: rest => (decode? rest).map (c :: ·)

/-- The rest of a text from inside the name of a character; the letters of the name so far come
first, the last one in front. -/
def decodeNamed? (letters : List Char) : List Char → Option (List Char)
  | [] => none
  | c :: rest =>
    if c = '}' then do return (← namedChar? letters.reverse) :: (← decode? rest)
    else decodeNamed? (c :: letters) rest

end

/-- The text that stands between the quotes of a literal, with its escapes read. -/
def unescape? (s : List Char) : Option (List Char) := decode? (asciiForm s)

/-- The text up to the closing quote, a backslash taking the next character with it, and the rest
after the quote. -/
def readQuoted (quote : Char) : List Char → Option (List Char × List Char)
  | [] => none
  | '\\' :: c :: rest => (readQuoted quote rest).map fun (s, r) => ('\\' :: c :: s, r)
  | c :: rest =>
    if c = quote then some ([], rest)
    else if c = '\\' then none
    else (readQuoted quote rest).map fun (s, r) => (c :: s, r)

/-- The digits at the start of a text, without the single underscores between them, and the
rest; an underscore may come first only where digits stand before the text. -/
def digitGroup (isDigit : Char → Bool) (after : Bool) : List Char → List Char × List Char
  | [] => ([], [])
  | c :: rest =>
    if isDigit c then
      let (digits, r) := digitGroup isDigit true rest
      (c :: digits, r)
    else if after && c = '_' && rest.head?.any isDigit then digitGroup isDigit false rest
    else ([], c :: rest)

/-- Is the character a decimal digit of some script? -/
def isAnyDigit (c : Char) : Bool := (Text.digitValue? c).isSome

/-- A decimal group of digits. -/
def decimalGroup (s : List Char) : List Char × List Char := digitGroup isAnyDigit false s

/-- The number that decimal digits write. -/
def decimalValue (digits : List Char) : Nat :=
  digits.foldl (fun n c => 10 * n + (Text.digitValue? c).getD 0) 0

/-- The digits after a point, and the rest. -/
def fraction? : List Char → Option (List Char × List Char)
  | '.' :: s =>
    let (digits, rest) := decimalGroup s
    if digits.isEmpty then none else some (digits, rest)
  | _ => none

/-- The sign and the digits of an exponent after its letter, and the rest. -/
def exponent? : List Char → Option ((Bool × List Char) × List Char)
  | c :: s =>
    if c = 'e' ∨ c = 'E' then
      let (negative, s) := Double.splitSign s
      let (digits, rest) := decimalGroup s
      if digits.isEmpty then none else some ((negative, digits), rest)
    else none
  | [] => none

/-- A number with a point or an exponent, if it has a value, and the rest. -/
def readReal? (s : List Char) : Option (Option Json × List Char) :=
  let (whole, rest) := decimalGroup s
  let fraction := fraction? rest
  let (digits, rest) := fraction.getD ([], rest)
  let power := exponent? rest
  let ((negative, exponent), rest) := power.getD ((false, []), rest)
  if whole.isEmpty || (fraction.isNone && power.isNone) then none
  else if !(whole ++ digits ++ exponent).all Char.isDigit then some (none, rest)
  else
    let e : Int := (decimalValue exponent : Int)
    some (some (.real (Double.ofScientific false (decimalValue (whole ++ digits))
      ((if negative then -e else e) - (digits.length : Int)))), rest)

/-- The base that a letter after a zero announces, with the value of its digits. -/
def base? : Char → Option (Nat × (Char → Option Nat))
  | 'b' | 'B' => some (2, fun c => (octalDigit? c).filter (· < 2))
  | 'o' | 'O' => some (8, octalDigit?)
  | 'x' | 'X' => some (16, fun c => (Text.digitValue? c).or (Text.hexDigit? c))
  | _ => none

/-- An integer with its base in front. -/
def readBased? : List Char → Option (Json × List Char)
  | '0' :: letter :: s => do
    let (base, digit?) ← base? letter
    let (digits, rest) := digitGroup (fun c => (digit? c).isSome) true s
    if digits.isEmpty then none
    else
      let n := digits.foldl (fun n c => base * n + (digit? c).getD 0) 0
      some (.int (n : Int), rest)
  | _ => none

/-- A decimal integer: zeros, or digits of which the first is no zero. -/
def readDecimal? (s : List Char) : Option (Json × List Char) :=
  let (digits, rest) :=
    if s.head? = some '0' then digitGroup (· = '0') false s else decimalGroup s
  if digits.isEmpty || decide (maxIntegerDigits < digits.length) then none
  else some (.int (decimalValue digits : Int), rest)

/-- The number at the start of a text, and the rest. -/
def readNumber? (s : List Char) : Option (Json × List Char) :=
  match readReal? s with
  | some (value?, rest) => value?.map fun v => (v, rest)
  | none => (readBased? s).or (readDecimal? s)

end Template
end TrackingPlan
