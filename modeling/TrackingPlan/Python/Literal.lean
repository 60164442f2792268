import TrackingPlan.Json.Limits
import TrackingPlan.Json.Printer
import TrackingPlan.Naming.Scope
import TrackingPlan.Text.Blank
import TrackingPlan.Text.Lines

/-!
# Python words, strings and docstrings

Names are changed where they are keywords, or builtins that the generated code relies on. A
string literal is a quoted text, whose escapes the language shares; the key of a record that is no
text is written as JSON, unless an integer in it has too many digits. A docstring stands between
triple quotes; a backslash in it is doubled, and the quotes that could end it are escaped.

Key definitions: `emptyScope`, `stringLiteral`, `keyLiteral?`, `docstring`.
-/

namespace TrackingPlan
namespace Python

/-- The keywords. -/
def keywords : List String := [
  "False", "None", "True", "and", "as", "assert", "async", "await", "break", "class",
  "continue", "def", "del", "elif", "else", "except", "finally", "for", "from", "global", "if",
  "import", "in", "is", "lambda", "nonlocal", "not", "or", "pass", "raise", "return", "try",
  "while", "with", "yield"]

/-- The builtins that generated functions call or annotate with. -/
def builtins : List String := ["str", "int", "bool", "staticmethod", "Enum"]

/-- A scope in which no name is taken. -/
def emptyScope : Naming.Scope := { keywords, builtins }

/-- The string literal of a text. -/
def stringLiteral (s : String) : String := Text.quote s

/-- The literal of the key of a record, if it can be written. -/
def keyLiteral? (key : Json) : Option String :=
  if key.longestInteger ≤ maxIntegerDigits then some key.compact else none

/-- The text with every backslash doubled. -/
def doubleBackslashes : List Char → List Char
  | [] => []
  | c :: rest => if c = '\\' then '\\' :: '\\' :: doubleBackslashes rest
    else c :: doubleBackslashes rest

/-- The text with a quote at its end escaped. -/
def escapeLastQuote : List Char → List Char
  | [] => []
  | ['"'] => ['\\', '"']
  | c :: rest => c :: escapeLastQuote rest

/-- The text with every three quotes in a row escaped. -/
def escapeTripleQuotes : List Char → List Char
  | '"' :: '"' :: '"' :: rest =>
    '\\' :: '"' :: '\\' :: '"' :: '\\' :: '"' :: escapeTripleQuotes rest
  | c :: rest => c :: escapeTripleQuotes rest
  | [] => []

/-- Three quotes. -/
def tripleQuote : List Char := ['"', '"', '"']

/-- The content of the docstring of a trimmed description. -/
def docstringBody (s : List Char) : List Char :=
  escapeTripleQuotes (escapeLastQuote (doubleBackslashes s))

/-- The docstring of a description: on one line, or with the closing quotes on a line of their
own. A blank description has none. -/
def docstring (comments : Bool) (description : String) : Option String :=
  if !comments || Text.allBlank description.toList then none
  else
    let body := docstringBody (Text.trim Text.isBlank description.toList)
    some (String.ofList (
      if '\n' ∈ body then tripleQuote ++ body ++ '\n' :: tripleQuote
      else tripleQuote ++ body ++ tripleQuote))

end Python
end TrackingPlan
