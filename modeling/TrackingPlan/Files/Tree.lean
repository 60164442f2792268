import TrackingPlan.Files.PathName

/-!
# File trees

The directories and files that a program sees. A place is given by its steps: those of a path
that starts at the top, the directory in which the program runs, or its root and steps if it is
absolute. The directories above the top and the roots are always there. Path names and the names
in them are bounded; a name that is too long is noticed when it is looked up in a directory.

Key definitions: `FileTree`, `PathFault`, `FileTree.locate`, `FileTree.has`,
`FileTree.isDirectory`, `FileTree.read`, `FileTree.write`, `FileTree.changes`.
-/

namespace TrackingPlan

/-- Files with their contents, and directories, by their places. -/
structure FileTree where
  files : List (List String × ByteArray) := []
  directories : List (List String) := []

/-- Why nothing can be done under a path name. -/
inductive PathFault where
  | missing
  | directory
  /-- The path name, or a name in it, is too long. -/
  | tooLong
  /-- The path name holds the character U+0000, which ends a path name for the system. -/
  | zeroCharacter
  deriving DecidableEq, Repr

/-- An answer about a path name; there is none when it is too long. -/
abbrev PathAnswer := Except PathFault Bool

namespace FileTree

/-- Is the place the top or above it? -/
def isUpward (here : List String) : Bool := here.all (· = "..")

/-- Is the place a root? -/
def isRoot (here : List String) : Bool := here = ["/"] || here = ["//"]

/-- Is there a directory? -/
def isDirectoryAt (t : FileTree) (here : List String) : Bool :=
  isUpward here || isRoot here || t.directories.contains here

/-- The place one step up. -/
def parentOf (here : List String) : List String :=
  if isUpward here then here ++ [".."]
  else if isRoot here then here
  else here.dropLast

/-- The content of a file. -/
def contentAt? (t : FileTree) (here : List String) : Option ByteArray := t.files.lookup here

/-- How many bytes a name may have. -/
def maxNameSize : Nat := 255

/-- How many bytes a path name may have. -/
def maxPathSize : Nat := 4095

/-- Where steps lead from a directory; every step but the last has to end in a directory. -/
def walk (t : FileTree) (here : List String) : List String → Except PathFault (List String)
  | [] => .ok here
  | part :: rest =>
    if !t.isDirectoryAt here then .error .missing
    else if part = ".." then walk t (parentOf here) rest
    else if maxNameSize < part.utf8ByteSize then .error .tooLong
    else walk t (here ++ [part]) rest

/-- The place from which a path name starts. -/
def startOf (p : PathName) : List String := if p.root = "" then [] else [p.root]

/-- The place of a path name in the tree, whether something is there or not. -/
def locate (t : FileTree) (p : PathName) : Except PathFault (List String) :=
  if p.text.toList.contains '\x00' then .error .zeroCharacter
  else if maxPathSize < p.text.utf8ByteSize then .error .tooLong
  else t.walk (startOf p) p.parts

/-- Does a test hold for the place of a path name? It does not where there is no such place. -/
def holdsAt (t : FileTree) (p : PathName) (test : List String → Bool) : PathAnswer :=
  match t.locate p with
  | .ok here => .ok (test here)
  | .error .tooLong => .error .tooLong
  | .error _ => .ok false

/-- Is there a directory under the path name? -/
def isDirectory (t : FileTree) (p : PathName) : PathAnswer := t.holdsAt p t.isDirectoryAt

/-- Is there anything under the path name? -/
def has (t : FileTree) (p : PathName) : PathAnswer :=
  t.holdsAt p fun here => t.isDirectoryAt here || (t.contentAt? here).isSome

/-- The content of the file under the path name. -/
def read (t : FileTree) (p : PathName) : Except PathFault ByteArray := do
  let here ← t.locate p
  if t.isDirectoryAt here then throw .directory
  match t.contentAt? here with
  | some data => return data
  | none => throw .missing

/-- A list of files with one of them replaced or added. -/
def setContent (files : List (List String × ByteArray)) (here : List String)
    (data : ByteArray) : List (List String × ByteArray) :=
  match files with
  | [] => [(here, data)]
  | (place, old) :: rest =>
    if place = here then (place, data) :: rest else (place, old) :: setContent rest here data

/-- The tree with a file written, if its directory is there and it is no directory itself. -/
def write (t : FileTree) (p : PathName) (data : ByteArray) : Except PathFault FileTree := do
  let here ← t.locate p
  if t.isDirectoryAt here then throw .directory
  return { t with files := setContent t.files here data }

/-- The tree with a directory and the directories above it. -/
def addDirectory (t : FileTree) (parts : List String) : FileTree :=
  let all := (List.range parts.length).map fun n => parts.take (n + 1)
  { t with directories := t.directories ++ all.filter fun d => !t.directories.contains d }

/-- The tree of some files and directories, with the directories that they need. -/
def ofEntries (files : List (String × ByteArray)) (directories : List String) : FileTree :=
  let t := directories.foldl (fun t d => t.addDirectory (PathName.ofString d).parts) {}
  files.foldl (fun t (name, data) =>
    let parts := (PathName.ofString name).parts
    let t := t.addDirectory parts.dropLast
    { t with files := setContent t.files parts data }) t

/-- The files of a later tree that are new or hold something else. -/
def changes (before after : FileTree) : List (List String × ByteArray) :=
  after.files.filter fun (place, data) => (before.contentAt? place).map (·.data) ≠ some data.data

/-- Is the place below the top? -/
def isBelow (place : List String) : Bool :=
  place.head? ≠ some ".." && place.head? ≠ some "/" && place.head? ≠ some "//"

/-- The changed files below the top, by their paths. -/
def changesBelow (before after : FileTree) : List (String × ByteArray) :=
  ((changes before after).filter fun (place, _) => isBelow place).map
    fun (place, data) => ("/".intercalate place, data)

end FileTree
end TrackingPlan
