import TrackingPlan.Text.Blank
import TrackingPlan.Text.Lines

/-!
# Layout of generated text

Indentation and comment marks leave blank lines as they are. Tidying takes the white space from
the end of every line and leaves at most two of the blank lines in a row.

Key definitions: `indent`, `comment`, `tidy`.
-/

namespace TrackingPlan
namespace Layout

open Text

/-- A text built from another one by a rule for texts as character lists. -/
def onText (f : List Char → List Char) (s : String) : String := String.ofList (f s.toList)

/-- The text with blanks in front of every line that is not blank; the first line may be left
out. -/
def indentLines (blanks : Nat) (first : Bool) : List Char → List Char :=
  mapLines fun i line =>
    if allBlank line || (i == 0 && !first) then line else List.replicate blanks ' ' ++ line

/-- The text with a mark and a blank in front of every line that is not blank. -/
def markLines (mark : List Char) : List Char → List Char :=
  mapLines fun _ line => if allBlank line then line else mark ++ ' ' :: line

/-- Leaves at most two empty lines in a row, of which `kept` stand before these lines. -/
def squeeze (kept : Nat) : List (List Char) → List (List Char)
  | [] => []
  | line :: rest =>
    if line.isEmpty then
      if kept < 2 then line :: squeeze (kept + 1) rest else squeeze kept rest
    else line :: squeeze 0 rest

/-- The text without white space at the end of its lines and without a third blank line in a
row. -/
def tidyText (s : List Char) : List Char :=
  unlines (squeeze 0 ((lines s).map (trimEnd isBlank)))

/-- The text with its lines indented. -/
def indent (blanks : Nat) (s : String) : String := onText (indentLines blanks true) s

/-- The text with its lines but the first indented. -/
def hang (blanks : Nat) (s : String) : String := onText (indentLines blanks false) s

/-- The text with its lines marked as comments. -/
def comment (mark s : String) : String := onText (markLines mark.toList) s

/-- The tidied text. -/
def tidy (s : String) : String := onText tidyText s

/-- Lines joined to one text. -/
def block (ls : List String) : String := "\n".intercalate ls

end Layout
end TrackingPlan
