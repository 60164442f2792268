/-!
# Quoted text

A text between double quotes. The quote and the backslash are escaped, so are the control
characters below U+0020: five of them by a letter, the others by their four hexadecimal digits.
All else stands for itself. JSON strings are written so, and so are the string literals of the
languages that share these escapes.

Key definitions: `escape`, `quoted`, `quote`.
-/

namespace TrackingPlan
namespace Text

/-- How one character is written between the quotes. -/
def escape (c : Char) : List Char :=
  match c with
  | '"' => ['\\', '"']
  | '\\' => ['\\', '\\']
  | '\n' => ['\\', 'n']
  | '\r' => ['\\', 'r']
  | '\t' => ['\\', 't']
  | '\x08' => ['\\', 'b']
  | '\x0c' => ['\\', 'f']
  | _ =>
    if c.toNat < 0x20 then
      ['\\', 'u', '0', '0', Nat.digitChar (c.toNat / 16), Nat.digitChar (c.toNat % 16)]
    else [c]

/-- The text between quotes. -/
def quoted (s : List Char) : List Char := '"' :: s.flatMap escape ++ ['"']

/-- The quoted form of a string. -/
def quote (s : String) : String := String.ofList (quoted s.toList)

end Text
end TrackingPlan
