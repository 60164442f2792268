import TrackingPlan.Template.Basic
import TrackingPlan.Template.Literal
import TrackingPlan.Text.Identifier
import TrackingPlan.Text.Lines

/-!
# Reading templates

A hole stands between double braces: an operand, then filters after bars, each with its
arguments in parentheses; the same may stand in parentheses and in an argument. A minus after the
opening braces takes the white space before the hole away, and a minus before the closing braces
the white space after it; a plus after the opening braces changes nothing.

A comment stands between braces with number signs. The same signs do the same to the white space
around it; without them the white space between the start of a line and the comment goes away,
and so does a line feed right after the comment. Tags for statements are not part of templates.
Every line end of a template is a line feed.

Key definition: `Template.parse?`.
-/

namespace TrackingPlan
namespace Template

/-- The tokens of a hole. -/
inductive Token where
  | name (s : String)
  | number (v : Json)
  | text (s : List Char)
  | mark (c : Char)

/-- The marks that are tokens of their own. -/
def marks : List Char := ['|', '(', ')', ',', '=', '-', '+']

/-- What follows a tag, and whether a line starts there. -/
abbrev Remainder := List Char × Bool

/-- What follows the white space at the start of a text. -/
def afterBlanks (s : List Char) : Remainder :=
  (Text.trimStart Text.isBlank s, (s.takeWhile Text.isBlank).getLast? = some '\n')

/-- A hole that ends here: what follows its closing braces, without the white space that a minus
before them takes away. -/
def holeEnd? : List Char → Option Remainder
  | '-' :: '}' :: '}' :: rest => some (afterBlanks rest)
  | '}' :: '}' :: rest => some (rest, false)
  | _ => none

/-- The parentheses that are open after a mark, unless it closes one that is not. -/
def openAfter? (depth : Nat) (c : Char) : Option Nat :=
  if c = '(' then some (depth + 1)
  else if c = ')' then (if depth = 0 then none else some (depth - 1))
  else some depth

/-- May the character follow in a name? Marks that came late are not known. -/
def continuesName (c : Char) : Bool := Text.continuesIdentifier c && !Text.isLateMark c

/-- The token at the start of a text that is not blank, and the rest. -/
def token? : List Char → Option (Token × List Char)
  | [] => none
  | c :: rest =>
    if c.isDigit then
      (readNumber? (c :: rest)).map fun (v, r) => (.number v, r)
    else if Text.startsIdentifier c then
      some (.name (String.ofList (c :: rest.takeWhile continuesName)),
        rest.dropWhile continuesName)
    else if c = '\'' ∨ c = '"' then do
      let (s, r) ← readQuoted c rest
      return (.text (← unescape? s), r)
    else if c ∈ marks then some (.mark c, rest)
    else none

/-- The parentheses that are open after a token. -/
def depthAfter? (depth : Nat) : Token → Option Nat
  | .mark c => openAfter? depth c
  | _ => some depth

/-- The tokens up to the end of the hole, and the rest after it. A hole does not end between
parentheses. The first number bounds the tokens, for which the length of the text is enough; the
second one counts the open parentheses. -/
def tokens : (fuel depth : Nat) → List Char → Option (List Token × Remainder)
  | 0, _, _ => none
  | fuel + 1, depth, s =>
    match if depth = 0 then holeEnd? s else none with
    | some rest => some ([], rest)
    | none => match s with
      | [] => none
      | c :: rest =>
        if Text.isBlank c then tokens fuel depth rest
        else match token? (c :: rest) with
          | none => none
          | some (t, rest) => match depthAfter? depth t with
            | none => none
            | some depth => (tokens fuel depth rest).map fun (ts, r) => (t :: ts, r)

/-- The operand that a name stands for: a constant word, or a variable. -/
def namedOperand (name : String) : Operand :=
  if name = "true" ∨ name = "True" then .constant (.bool true)
  else if name = "false" ∨ name = "False" then .constant (.bool false)
  else if name = "none" ∨ name = "None" then .constant .null
  else .named name

/-- The texts at the start of a list of tokens, joined, and the tokens after them. -/
def joinTexts : List Token → List Char × List Token
  | .text s :: rest => (s ++ (joinTexts rest).1, (joinTexts rest).2)
  | ts => ([], ts)

/-- A filter with its operand and its arguments. An argument with a name is not followed by one
without. -/
def filterOf? (x : Operand) (name : String) (as : List (Option String × Operand)) :
    Option Operand := do
  let filter ← TemplateFilter.ofName? name
  let placed := (as.takeWhile (·.1.isNone)).map (·.2)
  let keyed ← (as.dropWhile (·.1.isNone)).mapM fun (key, x) => key.map fun key => (key, x)
  return .filtered x filter placed keyed

mutual

/-- The operand at the start of a list of tokens, without the filters after it, and the tokens
after it. Neighbouring texts are one text. Here and below the number bounds the steps, for which
four for each token are enough. -/
def operand : Nat → List Token → Option (Operand × List Token)
  | n + 1, .mark c :: rest =>
    if c = '-' ∨ c = '+' then
      (operand n rest).map fun (x, r) => (.signed (c = '-') x, r)
    else if c = '(' then
      match filteredOperand n rest with
      | some (x, .mark ')' :: r) => some (x, r)
      | _ => none
    else none
  | _ + 1, .name name :: rest => if name = "not" then none else some (namedOperand name, rest)
  | _ + 1, .number v :: rest => some (.constant v, rest)
  | _ + 1, .text s :: rest =>
    some (.constant (.str (String.ofList (s ++ (joinTexts rest).1))), (joinTexts rest).2)
  | _, _ => none

/-- The operand at the start of a list of tokens with the filters after it, and the tokens after
them. -/
def filteredOperand : Nat → List Token → Option (Operand × List Token)
  | 0, _ => none
  | n + 1, ts => (operand n ts).bind fun (x, rest) => filters n x rest

/-- The filters after an operand, and the tokens after them. -/
def filters : Nat → Operand → List Token → Option (Operand × List Token)
  | n + 1, x, .mark '|' :: .name f :: .mark '(' :: rest => do
    let (as, rest) ← arguments n rest
    filters n (← filterOf? x f as) rest
  | n + 1, x, .mark '|' :: .name f :: rest => do filters n (← filterOf? x f []) rest
  | _ + 1, x, ts => some (x, ts)
  | 0, _, _ => none

/-- One argument at the start of a list of tokens, with its name when it has one, and the tokens
after it. -/
def argument? : Nat → List Token → Option ((Option String × Operand) × List Token)
  | n + 1, .name key :: .mark '=' :: rest =>
    (filteredOperand n rest).map fun (x, r) => ((some key, x), r)
  | n + 1, ts => (filteredOperand n ts).map fun (x, r) => ((none, x), r)
  | 0, _ => none

/-- The arguments up to the closing parenthesis, before which a comma may stand, and the tokens
after it. -/
def arguments : Nat → List Token → Option (List (Option String × Operand) × List Token)
  | 0, _ => none
  | _ + 1, .mark ')' :: rest => some ([], rest)
  | n + 1, ts =>
    match argument? n ts with
    | some (a, .mark ')' :: rest) => some ([a], rest)
    | some (a, .mark ',' :: rest) => (arguments n rest).map fun (as, r) => (a :: as, r)
    | _ => none

end

/-- The hole of a list of tokens. -/
def hole? (ts : List Token) : Option TemplatePiece :=
  match filteredOperand (4 * ts.length + 4) ts with
  | some (x, []) => if x.folded.isReadable then some (.hole x.folded) else none
  | _ => none

/-- The literal text up to the first tag, and the rest from the tag on. -/
def literal : List Char → List Char × List Char
  | '{' :: c :: rest =>
    if c = '{' ∨ c = '%' ∨ c = '#' then ([], '{' :: c :: rest)
    else ('{' :: (literal (c :: rest)).1, (literal (c :: rest)).2)
  | c :: rest => (c :: (literal rest).1, (literal rest).2)
  | [] => ([], [])

/-- The text before a hole and the inside of the hole, given what follows its braces. -/
def opening (text : List Char) : List Char → List Char × List Char
  | '-' :: inside => (Text.trimEnd Text.isBlank text, inside)
  | '+' :: inside => (text, inside)
  | inside => (text, inside)

/-- A text without the white space between the start of its last line and its end; where it has
only one line it is told whether that is a whole one. -/
def withoutMargin (startsLine : Bool) (text : List Char) : List Char :=
  let margin := text.reverse.takeWhile (· ≠ '\n')
  if (startsLine || text.contains '\n') && Text.allBlank margin then
    text.take (text.length - margin.length)
  else text

/-- The text before a comment and the inside of the comment, given what follows its brace. -/
def commentOpening (startsLine : Bool) (text : List Char) : List Char → List Char × List Char
  | '-' :: inside => (Text.trimEnd Text.isBlank text, inside)
  | '+' :: inside => (text, inside)
  | inside => (withoutMargin startsLine text, inside)

/-- What follows the end of a comment, from inside it. -/
def afterComment? : List Char → Option Remainder
  | '-' :: '#' :: '}' :: rest => some (afterBlanks rest)
  | '+' :: '#' :: '}' :: rest => some (rest, false)
  | '#' :: '}' :: '\n' :: rest => some (rest, true)
  | '#' :: '}' :: rest => some (rest, false)
  | _ :: rest => afterComment? rest
  | [] => none

/-- The pieces of a text. The number bounds the tags; the length of the text is enough. -/
def pieces : Nat → Remainder → Option Template
  | 0, _ => none
  | n + 1, (s, startsLine) =>
    let (text, rest) := literal s
    match rest with
    | [] => some [.text text]
    | '{' :: '{' :: after =>
      let (text, inside) := opening text after
      match tokens (inside.length + 1) 0 inside with
      | none => none
      | some (ts, after) => do
        return .text text :: (← hole? ts) :: (← pieces n after)
    | '{' :: '#' :: after =>
      let (text, inside) := commentOpening startsLine text after
      match afterComment? inside with
      | none => none
      | some after => (pieces n after).map (.text text :: ·)
    | _ => none

/-- The template that a text writes, if it is well formed. -/
def parse? (text : String) : Option Template :=
  let s := Text.normalizeNewlines text.toList
  pieces (s.length + 1) (s, true)

end Template
end TrackingPlan
