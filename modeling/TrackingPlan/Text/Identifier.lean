import TrackingPlan.Text.Blank
import TrackingPlan.Text.IdentifierTable

/-!
# Identifiers

The identifiers of the Unicode standard: a letter-like character or an underscore, then
letter-like characters, digits, marks and connectors.

Key definition: `isIdentifier`.
-/

namespace TrackingPlan
namespace Text

/-- May the character start an identifier? -/
def startsIdentifier (c : Char) : Bool := inRanges identifierStartRanges c.toNat

/-- May the character follow in an identifier? -/
def continuesIdentifier (c : Char) : Bool := inRanges identifierContinueRanges c.toNat

/-- Is the character a mark that came to the standard after version 9? -/
def isLateMark (c : Char) : Bool := inRanges lateMarkRanges c.toNat

/-- Is the text an identifier? The empty text is none. -/
def isIdentifier : List Char → Bool
  | [] => false
  | c :: rest => startsIdentifier c && rest.all continuesIdentifier

end Text
end TrackingPlan
