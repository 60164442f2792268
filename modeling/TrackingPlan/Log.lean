/-!
# Log lines

Every part of the program logs under a name below the name of the program.

Key definitions: `LogLine`, `loggerName`.
-/

namespace TrackingPlan

/-- How grave a log line is. -/
inductive LogLevel where
  | warning
  | error
  deriving DecidableEq, Repr

/-- The word for a level. -/
def LogLevel.word : LogLevel → String
  | warning => "WARNING"
  | error => "ERROR"

/-- A line of the log. -/
structure LogLine where
  level : LogLevel
  text : String
  deriving DecidableEq, Repr

/-- The name under which the whole program logs. -/
def rootLogger : String := "mammoth_codegen"

/-- The name under which a part of the program logs. -/
def loggerName (part : String) : String :=
  if part = rootLogger ∨ (rootLogger ++ ".").toList.isPrefixOf part.toList then part
  else rootLogger ++ "." ++ part

end TrackingPlan
