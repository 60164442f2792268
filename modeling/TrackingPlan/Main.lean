import TrackingPlan.CommandLine.Session

/-!
# The program

Reads the arguments, shows a session the files that they name, and carries out what the session
leaves: the lines it has printed and the file it has written. There is no connection to the
service, so that a schema has to come from a file.
-/

open TrackingPlan CommandLine

namespace TrackingPlan
namespace Program

/-- How deep values may be nested here. -/
@[reducible]
def depths : Depths where
  schemaText := 985
  schemaFile := 984
  reply := 985
  configFile := 984
  keptConfig := 490

/-- The path of a place. -/
def pathOf : List String → String
  | [] => "."
  | root :: rest =>
    if FileTree.isRoot [root] then root ++ "/".intercalate rest
    else "/".intercalate (root :: rest)

/-- The tree with what is found at the place of a path name and on the way to it. -/
def look (t : FileTree) (name : String) : IO FileTree := do
  let p := PathName.ofString name
  let place := FileTree.startOf p ++ p.parts
  let mut t := t
  for n in List.range place.length do
    let here := place.take (n + 1)
    match ← (IO.FS.readBinFile (pathOf here)).toBaseIO with
    | .ok data => t := { t with files := FileTree.setContent t.files here data }
    | .error (.inappropriateType ..) => t := { t with directories := here :: t.directories }
    | .error _ => pure ()
  return t

/-- The path names that the arguments hold. -/
def namesOf (a : Arguments) : List String :=
  let directory := a.outputPath.getD "."
  [a.schemaFile, a.config, directory,
    ((PathName.ofString directory).join (PathName.ofString a.outputFilename)).text]

/-- Writes one printed thing. -/
def write : Printed → IO Unit
  | .line text => IO.println text
  | .code text _ => IO.println text
  | .table title columns rows => do
    IO.println title
    for row in columns :: rows do
      IO.println (" | ".intercalate row)
  | .panel title text => do
    IO.println title
    IO.println text

/-- The text of the help. -/
def usage : String := "usage: mammoth-codegen [--schema-file FILE] [--output-path DIRECTORY] " ++
  "[--output-filename NAME] [--stdout] [--language LANGUAGE] [--class-name NAME] " ++
  "[--no-schema-metadata] [--require-event-type] [--strict-identifiers] [--config FILE] " ++
  "[--list-languages] [--verbose]"

end Program
end TrackingPlan

/-- Runs a session for the arguments of the program. -/
def main (args : List String) : IO UInt32 := do
  match parseArguments args with
  | .usageError =>
    IO.eprintln Program.usage
    return 2
  | .help =>
    IO.println Program.usage
    return 0
  | .accepted a =>
    let files ← (Program.namesOf a).foldlM Program.look {}
    let report := letI := Program.depths; run a files .unreachable
    for l in report.log do
      IO.eprintln (l.level.word ++ " " ++ l.text)
    for (place, data) in FileTree.changes files report.files do
      IO.FS.writeBinFile (Program.pathOf place) data
    for p in report.printed do
      Program.write p
    return UInt32.ofNat report.exit
