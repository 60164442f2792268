import TrackingPlan.Json.Depths
import TrackingPlan.Json.Reader
import TrackingPlan.Schema.Decoder

/-!
# Documents

A schema arrives as bytes, as text or as a value that is read already. Bytes are UTF-8 text, and
text is JSON.

Key definitions: `Document`, `SchemaError`, `SchemaError.message?`, `Document.load`.
-/

namespace TrackingPlan

/-- What a schema is loaded from; a string value stands for the text of a document. -/
inductive Document where
  | bytes (data : ByteArray)
  | value (v : Json)

/-- Why no schema could be loaded. -/
inductive SchemaError where
  | notUtf8
  | notJson
  | malformed (fault : DecodeError)
  | fileNotJson (path : String)
  | fileUnreadable (path : String)
  /-- The text goes beyond the limits of JSON texts. -/
  | beyondLimits
  /-- A string of the document is no text of characters. -/
  | loneHalf
  deriving DecidableEq, Repr

/-- The text of a load error, as far as it has one of its own. -/
def SchemaError.message? : SchemaError → Option String
  | notUtf8 => some "Schema document is not valid UTF-8"
  | notJson => some "Invalid JSON in schema document"
  | malformed fault => some fault.message
  | fileNotJson path => some ("Invalid JSON in file " ++ path)
  | fileUnreadable path => some ("Error reading file " ++ path)
  | beyondLimits => none
  | loneHalf => none

/-- The schema of a value. -/
def Schema.ofValue (v : Json) : Except SchemaError Schema :=
  (Schema.decode v).mapError .malformed

variable [Depths]

/-- The schema of a JSON text. -/
def Schema.ofText (text : String) : Except SchemaError Schema :=
  match Json.read Depths.schemaText text with
  | .ok v => Schema.ofValue v
  | .error .malformed => .error .notJson
  | .error .loneHalf => .error .loneHalf
  | .error _ => .error .beyondLimits

/-- The schema of a document. -/
def Document.load : Document → Except SchemaError Schema
  | bytes data => match String.fromUTF8? data with
    | some text => Schema.ofText text
    | none => .error .notUtf8
  | value (.str text) => Schema.ofText text
  | value v => Schema.ofValue v

end TrackingPlan
