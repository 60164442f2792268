import TrackingPlan.Files.Tree
import TrackingPlan.Json.Depths
import TrackingPlan.Json.Limits
import TrackingPlan.Json.Printer
import TrackingPlan.Json.Reader
import TrackingPlan.Settings.Basic
import TrackingPlan.Text.Case

/-!
# Configurations of a language

The configuration of a language is made of its defaults, then a configuration file, then the
overrides of the caller, each put over what came before. A configuration can be kept in a file
and read back; one that goes beyond the limits of JSON cannot be kept, and its depth is noticed
before the file is touched.

Key definitions: `Settings.languageDefaults`, `Settings.readFile`, `Settings.forLanguage`,
`Settings.fileText`, `Settings.save`.
-/

namespace TrackingPlan
namespace Settings

/-- The defaults of the languages that have some, in order. -/
def defaultsByLanguage : Assoc (Assoc Json) := [
  ("kotlin", [("output_file", .str "MammothEvents.kt"),
    ("package_name", .str "com.trafi.analytics"), ("language_config", .obj [])]),
  ("python", [("output_file", .str "mammoth_events.py"),
    ("package_name", .str ""), ("language_config", .obj [])])]

/-- The defaults of a language. -/
def languageDefaults (language : String) : Assoc Json :=
  (defaultsByLanguage.get? language).getD []

section Depth

variable [Depths]

/-- The members that the bytes of a configuration file write. -/
def membersOfBytes (path : PathName) (data : ByteArray) : Except ConfigError (Assoc Json) :=
  match String.fromUTF8? data with
  | none => .error (.unusablePath path.text)
  | some text => match Json.read Depths.configFile text with
    | .ok (.obj members) => .ok members
    | .ok _ => .error (.notAnObject path.text)
    | .error .malformed => .error (.invalidJson path.text)
    | .error .loneHalf => .error (.loneHalf path.text)
    | .error _ => .error (.unusablePath path.text)

/-- The members that a configuration file holds. -/
def readFile (files : FileTree) (name : String) : Except ConfigError (Assoc Json) :=
  let path := PathName.ofString name
  match files.has path with
  | .error _ => .error (.unusablePath path.text)
  | .ok false => .error (.fileNotFound path.text)
  | .ok true =>
    if Text.lowercase path.suffix ≠ ".json" then .error (.notJsonName path.text)
    else match files.read path with
      | .error _ => .error (.unreadable path.text)
      | .ok data => membersOfBytes path data

/-- The configuration of a language under a configuration file, unless its name is empty, and
under the overrides. -/
def forLanguage (files : FileTree) (language : String) (overrides : Assoc Json := [])
    (file : String := "") : Except ConfigError Settings := do
  let base := languageDefaults language
  let base ← if file = "" then pure base else do merge base (← readFile files file)
  assemble (← merge base overrides)

/-- The text in which a configuration is kept. -/
def fileText (s : Settings) : String := (Json.obj s.entries).pretty

/-- How many digits the longest integer of a configuration has, wherever it stands. -/
def longestInteger (s : Settings) : Nat :=
  max (Json.obj s.entries).longestInteger
    (Json.longestOfItems ((s.languageTable.getD []).map (·.1)))

/-- The files after a configuration was kept in one of them. -/
def save (files : FileTree) (s : Settings) (name : String) : Except ConfigError FileTree :=
  let path := PathName.ofString name
  match s.get "conventions" with
  | .obj _ =>
    if Depths.keptConfig < (Json.obj s.entries).depth then .error (.unusablePath path.text)
    else match files.write path s.fileText.toUTF8 with
      | .ok files =>
        if maxIntegerDigits < s.longestInteger then .error (.unusablePath path.text)
        else .ok files
      | .error .zeroCharacter => .error (.unusablePath path.text)
      | .error _ => .error (.notSaved path.text)
  | _ => .error (.unusable "conventions")

end Depth

end Settings
end TrackingPlan
