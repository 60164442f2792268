import TrackingPlan.Files.Tree
import TrackingPlan.Log
import TrackingPlan.Schema.Document
import TrackingPlan.Text.Lines

/-!
# Documents and code in files

A document is read from a file of UTF-8 text whose lines may end in any of the three ways, and
code is written into a directory that has to be there already.

Key definitions: `FileError`, `readDocument`, `OutputError`, `writeCode`.
-/

namespace TrackingPlan

/-- Why a file gives no document. -/
inductive FileError where
  | notFound (path : String)
  | schema (e : SchemaError)
  /-- The path leads nowhere, or its file is no UTF-8 text or goes beyond the limits of JSON. -/
  | unusablePath (path : String)
  deriving DecidableEq, Repr

/-- The text of a file error, as far as it has one of its own. -/
def FileError.message? : FileError → Option String
  | notFound path => some ("File not found: " ++ path)
  | schema e => e.message?
  | unusablePath _ => none

/-- The line that a file error leaves in the log. -/
def FileError.log (e : FileError) : List LogLine :=
  (e.message?.map fun text => ⟨.error, text⟩).toList

section Reading

variable [Depths]

/-- The document that the bytes of a file are. -/
def documentOfBytes (path : PathName) (data : ByteArray) : Except FileError Json :=
  match String.fromUTF8? data with
  | none => .error (.unusablePath path.text)
  | some text =>
    match Json.read Depths.schemaFile (String.ofList (Text.normalizeNewlines text.toList)) with
    | .ok v => .ok v
    | .error .malformed => .error (.schema (.fileNotJson path.text))
    | .error .loneHalf => .error (.schema .loneHalf)
    | .error _ => .error (.unusablePath path.text)

/-- The document that a file holds. -/
def readDocument (files : FileTree) (name : String) : Except FileError Json :=
  let path := PathName.ofString name
  match files.has path with
  | .error _ => .error (.unusablePath path.text)
  | .ok false => .error (.notFound path.text)
  | .ok true => match files.read path with
    | .error _ => .error (.schema (.fileUnreadable path.text))
    | .ok data => documentOfBytes path data

end Reading

/-- Why code could not be written. -/
inductive OutputError where
  | noDirectory (path : String)
  | notWritten (path : String)
  /-- The path cannot be looked up at all, or the name of the file is no text. -/
  | unusablePath (path : String)
  deriving DecidableEq, Repr

/-- The text of an output error, as far as it has one of its own. -/
def OutputError.message? : OutputError → Option String
  | noDirectory path => some ("Output directory does not exist: " ++ path)
  | notWritten path => some ("Failed to write " ++ path)
  | unusablePath _ => none

/-- The lines that an output error leaves in the log. -/
def OutputError.log : OutputError → List LogLine
  | notWritten path => [⟨.error, "Failed to write " ++ path⟩]
  | _ => []

/-- The path of the file that code was written to, and the files after it. -/
def writeCode (files : FileTree) (code directory name : String) :
    Except OutputError (PathName × FileTree) :=
  let directory := PathName.ofString directory
  match files.isDirectory directory with
  | .error _ => .error (.unusablePath directory.text)
  | .ok false => .error (.noDirectory directory.text)
  | .ok true =>
    let target := directory.join (PathName.ofString name)
    match files.write target code.toUTF8 with
    | .ok files => .ok (target, files)
    | .error .zeroCharacter => .error (.unusablePath target.text)
    | .error _ => .error (.notWritten target.text)

end TrackingPlan
