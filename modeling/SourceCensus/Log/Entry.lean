/-! # Log entries

    Operations report what they did as a list of entries in the order in which they were
    made. An entry has a severity and a message; severities are ordered by their numbers.
-/

namespace SourceCensus

/-- How serious an entry is. -/
inductive Severity where
  | debug
  | info
  | warning
  | error
  | critical
  deriving DecidableEq, Repr

namespace Severity

/-- The number of a severity. -/
def number : Severity → Nat
  | .debug => 10
  | .info => 20
  | .warning => 30
  | .error => 40
  | .critical => 50

/-- The name of a severity. -/
def name : Severity → String
  | .debug => "DEBUG"
  | .info => "INFO"
  | .warning => "WARNING"
  | .error => "ERROR"
  | .critical => "CRITICAL"

end Severity

/-- One entry of a log. -/
structure LogEntry where
  /-- How serious it is. -/
  severity : Severity
  /-- What it says. -/
  message : String
  deriving DecidableEq, Repr

end SourceCensus
