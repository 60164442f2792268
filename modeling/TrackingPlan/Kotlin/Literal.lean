import TrackingPlan.Json.Basic
import TrackingPlan.Text.Blank
import TrackingPlan.Text.Lines

/-!
# Kotlin words, strings and comments

A name that is a hard keyword is written between backticks. In a string the quote, the
backslash, the dollar sign and three control characters are escaped. In a documentation comment
the marks that open and close comments are broken up. A setting is an identifier by its value,
which is no list and no object, and the key of a record only if it is a text.

Key definitions: `escapeIdentifier`, `stringLiteral`, `identifierOf?`, `keyLiteral?`,
`descriptionLines`.
-/

namespace TrackingPlan
namespace Kotlin

/-- The hard keywords. -/
def keywords : List String := [
  "as", "break", "class", "continue", "do", "else", "false", "for", "fun", "if", "in",
  "interface", "is", "null", "object", "package", "return", "super", "this", "throw", "true",
  "try", "typealias", "typeof", "val", "var", "when", "while"]

/-- A name as it is written in code. -/
def escapeIdentifier (name : String) : String :=
  if name ∈ keywords then "\x60" ++ name ++ "\x60" else name

/-- How one character is written in a string. -/
def escapeChar (c : Char) : List Char :=
  match c with
  | '\\' => ['\\', '\\']
  | '"' => ['\\', '"']
  | '$' => ['\\', '$']
  | '\n' => ['\\', 'n']
  | '\r' => ['\\', 'r']
  | '\t' => ['\\', 't']
  | _ => [c]

/-- The string literal of a text. -/
def stringLiteral (s : String) : String :=
  String.ofList ('"' :: s.toList.flatMap escapeChar ++ ['"'])

/-- The identifier that a setting gives; a value that is no text stays as it is. -/
def identifierOf? : Json → Option Json
  | .str name => some (.str (escapeIdentifier name))
  | v => if v.isContainer then none else some v

/-- The literal of the key of a record. -/
def keyLiteral? : Json → Option String
  | .str s => some (stringLiteral s)
  | _ => none

/-- The stroke of a comment mark, written so that it is none. -/
def brokenStroke : List Char := ['&', '#', '4', '7', ';']

/-- The text without the mark that closes a comment. -/
def breakClosing : List Char → List Char
  | '*' :: '/' :: rest => '*' :: brokenStroke ++ breakClosing rest
  | c :: rest => c :: breakClosing rest
  | [] => []

/-- The text without the mark that opens a comment. -/
def breakOpening : List Char → List Char
  | '/' :: '*' :: rest => brokenStroke ++ '*' :: breakOpening rest
  | c :: rest => c :: breakOpening rest
  | [] => []

/-- The lines of the documentation comment of a description; a blank one has none. -/
def descriptionLines (comments : Bool) (description : String) : List String :=
  if !comments || Text.allBlank description.toList then []
  else
    let text := breakOpening (breakClosing description.toList)
    (Text.lines (Text.trim Text.isBlank text)).map String.ofList

end Kotlin
end TrackingPlan
