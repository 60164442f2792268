import TrackingPlan.Schema.Basic
import TrackingPlan.Schema.Path

/-!
# Schemas from documents

A document is decoded member by member. Members that are not known are ignored, and a null
member counts as missing. The first fault ends the decoding and names its place.

Key definitions: `DecodeError`, `DecodeError.message`, `Schema.decode`.
-/

namespace TrackingPlan

/-- Why a document is no schema. -/
inductive DecodeError where
  | notAnObject (path : Path) (got : Json.Kind)
  | missing (path : Path)
  | notAList (path : Path)
  | notAnInteger (path : Path)
  | wrongKind (path : Path) (wanted got : Json.Kind)
  | notAListOfStrings (path : Path)
  deriving DecidableEq, Repr

/-- The text of a fault. -/
def DecodeError.message : DecodeError → String
  | notAnObject path got => path.text ++ " must be an object, got " ++ got.word
  | missing path => path.text ++ " is required"
  | notAList path => path.text ++ " must be a list"
  | notAnInteger path => path.text ++ " must be an integer"
  | wrongKind path wanted got =>
    path.text ++ " must be of type " ++ wanted.word ++ ", got " ++ got.word
  | notAListOfStrings path => path.text ++ " must be a list of strings"

namespace Decode

/-- The result of decoding. -/
abbrev Result (α : Type) := Except DecodeError α

/-- The members of an object. -/
def object (path : Path) : Json → Result (Assoc Json)
  | .obj members => .ok members
  | v => .error (.notAnObject path v.kind)

/-- The items of a list member; a missing list has none. -/
def list (node : Assoc Json) (path : Path) (key : String) : Result (List Json) :=
  match Json.member node key with
  | .null => .ok []
  | .arr items => .ok items
  | _ => .error (.notAList (path ++ [.key key]))

/-- The items of a list member that has to be there. -/
def requiredList (node : Assoc Json) (path : Path) (key : String) : Result (List Json) :=
  match Json.member node key with
  | .null => .error (.missing (path ++ [.key key]))
  | .arr items => .ok items
  | _ => .error (.notAList (path ++ [.key key]))

/-- A text member that may be missing. -/
def text? (node : Assoc Json) (path : Path) (key : String) : Result (Option String) :=
  match Json.member node key with
  | .null => .ok none
  | .str s => .ok (some s)
  | v => .error (.wrongKind (path ++ [.key key]) .text v.kind)

/-- An integer member that may be missing; a boolean is no integer. -/
def integer? (node : Assoc Json) (path : Path) (key : String) : Result (Option Int) :=
  match Json.member node key with
  | .null => .ok none
  | .int n => .ok (some n)
  | .bool _ => .error (.notAnInteger (path ++ [.key key]))
  | v => .error (.wrongKind (path ++ [.key key]) .integer v.kind)

/-- A boolean member that may be missing. -/
def boolean? (node : Assoc Json) (path : Path) (key : String) : Result (Option Bool) :=
  match Json.member node key with
  | .null => .ok none
  | .bool b => .ok (some b)
  | v => .error (.wrongKind (path ++ [.key key]) .boolean v.kind)

/-- A member that has to be there. -/
def required {α : Type} (path : Path) (key : String) (member : Result (Option α)) : Result α :=
  match member with
  | .ok (some v) => .ok v
  | .ok none => .error (.missing (path ++ [.key key]))
  | .error e => .error e

/-- A text member that has to be there. -/
def text (node : Assoc Json) (path : Path) (key : String) : Result String :=
  required path key (text? node path key)

/-- An integer member that has to be there. -/
def integer (node : Assoc Json) (path : Path) (key : String) : Result Int :=
  required path key (integer? node path key)

/-- The items of a list, decoded in order, the first of them having number `i`. -/
def items {α : Type} (decode : Path → Json → Result α) (path : Path) :
    (i : Nat) → List Json → Result (List α)
  | _, [] => .ok []
  | i, v :: rest => do
    let x ← decode (path ++ [.index i]) v
    let xs ← items decode path (i + 1) rest
    return x :: xs

/-- A parameter; an empty publish name stands for the name itself. -/
def parameter (path : Path) (v : Json) : Result Parameter := do
  let node ← object path v
  let name ← text node path "name"
  let typeName ← text node path "typeName"
  let description ← text? node path "description"
  let publishName ← text? node path "publishName"
  return {
    name
    type := .ofName typeName
    description := description.getD ""
    publishName := if publishName.getD "" = "" then name else publishName.getD "" }

/-- A value; its parameter has to be there. -/
def value (path : Path) (v : Json) : Result Value := do
  let node ← object path v
  let parameter ← parameter (path ++ [.key "parameter"]) (Json.member node "parameter")
  let string ← text? node path "stringValue"
  let integer ← integer? node path "integerValue"
  let boolean ← boolean? node path "booleanValue"
  let stringEnum ← text? node path "stringEnumValue"
  return { parameter, string, integer, boolean, stringEnum }

/-- A tag. -/
def tag (path : Path) (v : Json) : Result Tag := do
  let node ← object path v
  let name ← text node path "name"
  let tagClass ← text? node path "class"
  return { name, tagClass := tagClass.getD "" }

/-- An event. -/
def event (path : Path) (v : Json) : Result Event := do
  let node ← object path v
  let rawValues ← list node path "values"
  let rawParameters ← list node path "parameters"
  let rawTags ← list node path "tags"
  let id ← integer node path "id"
  let name ← text node path "name"
  let description ← text? node path "description"
  let values ← items value (path ++ [.key "values"]) 0 rawValues
  let parameters ← items parameter (path ++ [.key "parameters"]) 0 rawParameters
  let tags ← items tag (path ++ [.key "tags"]) 0 rawTags
  return { id, name, description := description.getD "", values, parameters, tags }

/-- The strings of a list, when it holds nothing else. -/
def strings? : List Json → Option (List String)
  | [] => some []
  | .str s :: rest => (strings? rest).map (s :: ·)
  | _ :: _ => none

/-- The strings that a type admits, if it lists them. -/
def stringEnum (node : Assoc Json) (path : Path) : Result (Option (List String)) :=
  match Json.member node "stringEnum" with
  | .null => .ok none
  | .arr entries => match strings? entries with
    | some strings => .ok (some strings)
    | none => .error (.notAListOfStrings (path ++ [.key "stringEnum"]))
  | _ => .error (.notAListOfStrings (path ++ [.key "stringEnum"]))

/-- A type. -/
def schemaType (path : Path) (v : Json) : Result SchemaType := do
  let node ← object path v
  let stringEnum ← stringEnum node path
  let name ← text node path "name"
  return { name, stringEnum }

end Decode

open Decode in
/-- The schema that a document holds. -/
def Schema.decode (document : Json) : Except DecodeError Schema := do
  let root ← object [] document
  let rawEvents ← requiredList root [] "events"
  let rawTypes ← list root [] "types"
  let projectId ← text root [] "projectId"
  let versionNumber ← integer root [] "versionNumber"
  let events ← items event [.key "events"] 0 rawEvents
  let types ← items schemaType [.key "types"] 0 rawTypes
  return { projectId, versionNumber, events, types }

end TrackingPlan
