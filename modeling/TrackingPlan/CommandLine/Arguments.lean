import TrackingPlan.Number.Reader
import TrackingPlan.Transfer.Download

/-!
# Command line arguments

An option is given by its name or, for a long one, by any start of the name that no other option
shares. A value stands in the next argument, after an equals sign, or, for an option of one
letter, right behind it; several one-letter switches may share an argument. Of repeated options
the last one counts. There are no arguments besides options and their values. A lone double dash
that is attached to an option takes its value away instead of giving one.

Key definitions: `Arguments`, `ParseResult`, `parseArguments`.
-/

namespace TrackingPlan
namespace CommandLine

/-- What the command line asks for. Options that are needed where they are used have no value
when it was taken away. -/
structure Arguments where
  project : String := "whitelabel"
  version : String := ""
  schemaFile : String := ""
  baseUrl : Option String := some defaultBaseUrl
  timeout : Option Double := some defaultTimeout
  outputPath : Option String := some "."
  outputFilename : String := ""
  toStdout : Bool := false
  language : Option String := some "kotlin"
  className : String := ""
  noSchemaMetadata : Bool := false
  requireEventType : Bool := false
  strictIdentifiers : Bool := false
  config : String := ""
  listLanguages : Bool := false
  verbose : Bool := false
  deriving DecidableEq, Repr

/-- An option without a value. -/
inductive Switch where
  | help
  | toStdout
  | noSchemaMetadata
  | requireEventType
  | strictIdentifiers
  | listLanguages
  | verbose
  deriving DecidableEq, Repr

/-- An option with a value. -/
inductive Field where
  | project
  | version
  | schemaFile
  | baseUrl
  | timeout
  | outputPath
  | outputFilename
  | language
  | className
  | config
  deriving DecidableEq, Repr

/-- An option. -/
inductive CommandOption where
  | switch (s : Switch)
  | field (f : Field)
  deriving DecidableEq, Repr

/-- The names of the options. -/
def optionTable : List (List Char × CommandOption) := [
  ("-h".toList, .switch .help), ("--help".toList, .switch .help),
  ("--project".toList, .field .project), ("--version".toList, .field .version),
  ("--schema-file".toList, .field .schemaFile), ("--base-url".toList, .field .baseUrl),
  ("--timeout".toList, .field .timeout), ("--output-path".toList, .field .outputPath),
  ("--output-filename".toList, .field .outputFilename),
  ("--stdout".toList, .switch .toStdout),
  ("--language".toList, .field .language), ("-l".toList, .field .language),
  ("--class-name".toList, .field .className),
  ("--no-schema-metadata".toList, .switch .noSchemaMetadata),
  ("--require-event-type".toList, .switch .requireEventType),
  ("--strict-identifiers".toList, .switch .strictIdentifiers),
  ("--config".toList, .field .config),
  ("--list-languages".toList, .switch .listLanguages),
  ("--verbose".toList, .switch .verbose), ("-v".toList, .switch .verbose)]

/-- What an argument is by its form; an option may have a text attached to it. -/
inductive Word where
  | argument
  | ending
  | unknown
  | option (o : CommandOption) (short : Bool) (attached : Option (List Char))
  deriving DecidableEq, Repr

/-- The text before the first equals sign, and the text after it if there is one. -/
def splitEquals (s : List Char) : List Char × Option (List Char) :=
  match s.dropWhile (· ≠ '=') with
  | [] => (s, none)
  | _ :: value => (s.takeWhile (· ≠ '='), some value)

/-- Is the text a negative number: digits of any script after a minus, perhaps with a point
before the last of them? A line feed at the end does not count. -/
def isNegativeNumber (s : List Char) : Bool :=
  let isDigit (c : Char) : Bool := (Text.digitValue? c).isSome
  match s with
  | '-' :: digits =>
    let digits := if digits.getLast? = some '\n' then digits.dropLast else digits
    let rest := digits.dropWhile isDigit
    match rest with
    | [] => !digits.isEmpty
    | '.' :: fraction => !fraction.isEmpty && fraction.all isDigit
    | _ => false
  | _ => false

/-- The options that an argument may mean when it is the whole name of none. -/
def abbreviations (s : List Char) : List Word :=
  match s with
  | '-' :: '-' :: _ =>
    let (start, attached) := splitEquals s
    (optionTable.filter fun (name, _) => start.isPrefixOf name).map
      fun (_, o) => .option o false attached
  | '-' :: c :: rest =>
    (optionTable.filter fun (name, _) => name = ['-', c]).map
      fun (_, o) => .option o true (some rest)
  | _ => []

/-- What an argument is by its form; none when it may mean several options. -/
def classify (s : List Char) : Option Word :=
  match s with
  | '-' :: _ :: _ =>
    match optionTable.lookup s with
    | some o => some (.option o (s.length = 2) none)
    | none =>
      let (name, attached) := splitEquals s
      match attached.bind fun _ => optionTable.lookup name with
      | some o => some (.option o (name.length = 2) attached)
      | none => match abbreviations s with
        | [word] => some word
        | _ :: _ :: _ => none
        | [] =>
          if isNegativeNumber s || s.contains ' ' then some .argument else some .unknown
  | _ => some .argument

/-- The arguments with what they are; after a lone double dash all are plain arguments. -/
def classifyAll : List String → Option (List (String × Word))
  | [] => some []
  | s :: rest =>
    if s = "--" then some ((s, .ending) :: rest.map fun t => (t, .argument))
    else match classify s.toList, classifyAll rest with
      | some word, some words => some ((s, word) :: words)
      | _, _ => none

/-- What one argument asks for: switches, and perhaps a value for a field at its end. -/
inductive Cluster where
  | done
  | value (f : Field) (text : List Char)
  | valueNext (f : Field)
  | switch (s : Switch) (more : Cluster)
  | refused
  deriving DecidableEq, Repr

/-- What an option asks for when no text is attached to it. -/
def plainCluster : CommandOption → Cluster
  | .switch s => .switch s .done
  | .field f => .valueNext f

/-- What an option with an attached text asks for: a field takes it as its value, and behind a
one-letter switch it is read as further one-letter options. -/
def cluster (o : CommandOption) (short : Bool) (text : List Char) : Cluster :=
  match o with
  | .field f => .value f text
  | .switch s =>
    match text with
    | [] => .refused
    | c :: rest =>
      if !short then .refused
      else match optionTable.lookup ['-', c] with
        | none => .refused
        | some next => .switch s (match rest with
          | [] => plainCluster next
          | d :: more => cluster next true (d :: more))

/-- The end of reading a command line. -/
inductive ParseResult where
  | accepted (a : Arguments)
  | help
  | usageError
  deriving DecidableEq, Repr

namespace Arguments

/-- The arguments with a switch turned on; asking for help ends the reading. -/
def turnOn (a : Arguments) : Switch → Option Arguments
  | .help => none
  | .toStdout => some { a with toStdout := true }
  | .noSchemaMetadata => some { a with noSchemaMetadata := true }
  | .requireEventType => some { a with requireEventType := true }
  | .strictIdentifiers => some { a with strictIdentifiers := true }
  | .listLanguages => some { a with listLanguages := true }
  | .verbose => some { a with verbose := true }

/-- The arguments with a field set, if the field takes the text. -/
def setField (a : Arguments) (f : Field) (text : List Char) : Option Arguments :=
  let s := String.ofList text
  match f with
  | .project => some { a with project := s }
  | .version => some { a with version := s }
  | .schemaFile => some { a with schemaFile := s }
  | .baseUrl => some { a with baseUrl := some s }
  | .timeout => (Double.read? text).map fun timeout => { a with timeout := some timeout }
  | .outputPath => some { a with outputPath := some s }
  | .outputFilename => some { a with outputFilename := s }
  | .language => some { a with language := some s }
  | .className => some { a with className := s }
  | .config => some { a with config := s }

/-- The arguments with the value of a field taken away; where it is only shown, an empty list is
shown. -/
def clearField (a : Arguments) : Field → Arguments
  | .project => { a with project := "[]" }
  | .version => { a with version := "[]" }
  | .schemaFile => { a with schemaFile := "" }
  | .baseUrl => { a with baseUrl := none }
  | .timeout => { a with timeout := none }
  | .outputPath => { a with outputPath := none }
  | .outputFilename => { a with outputFilename := "" }
  | .language => { a with language := none }
  | .className => { a with className := "" }
  | .config => { a with config := "" }

/-- The arguments with a field set to an attached text, or without its value after a lone double
dash. -/
def setAttached (a : Arguments) (f : Field) (text : List Char) : Option Arguments :=
  if text = ['-', '-'] then some (a.clearField f) else a.setField f text

end Arguments

/-- Can the cluster be read, given the text of the next plain argument? -/
def Cluster.isReadable (next : Option String) : Cluster → Bool
  | refused => false
  | valueNext _ => next.isSome
  | switch _ more => more.isReadable next
  | _ => true

/-- Does the cluster take the next argument? -/
def Cluster.takesNext : Cluster → Bool
  | valueNext _ => true
  | switch _ more => more.takesNext
  | _ => false

/-- The arguments after what a cluster asks for, in its order. -/
def Cluster.apply (next : Option String) (a : Arguments) : Cluster → ParseResult
  | refused => .usageError
  | done => .accepted a
  | value f text => match a.setAttached f text with
    | some a => .accepted a
    | none => .usageError
  | valueNext f => match next.bind fun s => a.setField f s.toList with
    | some a => .accepted a
    | none => .usageError
  | switch s more => match a.turnOn s with
    | some a => more.apply next a
    | none => .help

/-- Reads classified arguments from left to right; `leftover` tells that one of them was neither
an option nor a value. -/
def readWords (a : Arguments) (leftover : Bool) : List (String × Word) → ParseResult
  | [] => if leftover then .usageError else .accepted a
  | (_, .option o short attached) :: rest =>
    let c := match attached with
      | none => plainCluster o
      | some text => cluster o short text
    let next := match rest with
      | (s, .argument) :: _ => some s
      | _ => none
    if !c.isReadable next then .usageError
    else match c.apply next a with
      | .accepted a =>
        if c.takesNext then
          match rest with
          | [] => .usageError
          | _ :: more => readWords a leftover more
        else readWords a leftover rest
      | result => result
  | _ :: rest => readWords a true rest

/-- What a command line asks for. -/
def parseArguments (args : List String) : ParseResult :=
  match classifyAll args with
  | some words => readWords {} false words
  | none => .usageError

end CommandLine
end TrackingPlan
