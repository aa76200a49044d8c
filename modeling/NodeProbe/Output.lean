import NodeProbe.Text.Basic

/-!
# Printed lines

The program prints lines on three levels. Logs go to the standard output, warnings and errors to the
standard error.
-/

namespace NodeProbe

/-- The level of a line. -/
inductive Level where
  | log
  | warn
  | error
  deriving DecidableEq, Repr

/-- The name of a level. -/
def Level.name : Level → String
  | log => "log"
  | warn => "warn"
  | error => "error"

/-- A line that the program prints. -/
structure Line where
  level : Level
  text : Text
  deriving DecidableEq, Repr

namespace Line

/-- A line on the standard output. -/
def log (text : Text) : Line := ⟨.log, text⟩

/-- A warning. -/
def warn (text : Text) : Line := ⟨.warn, text⟩

/-- An error. -/
def error (text : Text) : Line := ⟨.error, text⟩

end Line

end NodeProbe
