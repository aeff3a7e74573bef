/-!
# The log of a run

Nothing that is merely wrong with an export stops a run; it is told in the
log. A log is a list of lines in the order of writing, each with a level.
-/

namespace ChatImport

/-- How much a line of the log matters. -/
inductive Level where
  /-- For those who look into the program. -/
  | debug
  /-- The course of the run. -/
  | info
  /-- Something was changed or left out. -/
  | warn
  /-- Something was lost. -/
  | error
  deriving DecidableEq, Inhabited

/-- The name of a level. -/
def Level.name : Level → String
  | .debug => "DEBUG"
  | .info => "INFO"
  | .warn => "WARN"
  | .error => "ERROR"

/-- The rank of a level: a log that shows a level shows those of higher rank. -/
def Level.rank : Level → Nat
  | .debug => 0
  | .info => 1
  | .warn => 2
  | .error => 3

/-- One line of the log. -/
structure LogLine where
  /-- How much the line matters. -/
  level : Level
  /-- What it says. -/
  text : String
  deriving DecidableEq, Inhabited

namespace LogLine

/-- A line for those who look into the program. -/
def debug (text : String) : LogLine := ⟨.debug, text⟩

/-- A line on the course of the run. -/
def info (text : String) : LogLine := ⟨.info, text⟩

/-- A line that something was changed or left out. -/
def warn (text : String) : LogLine := ⟨.warn, text⟩

/-- A line that something was lost. -/
def error (text : String) : LogLine := ⟨.error, text⟩

/-- The line as it is shown. -/
def render (line : LogLine) : String := line.level.name ++ " " ++ line.text

end LogLine

end ChatImport
