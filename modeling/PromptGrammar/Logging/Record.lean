/-!
# PromptGrammar.Logging.Record

Log records: a level and a text, and the line on which a record is printed.
-/

namespace PromptGrammar

/-- How serious a record is. -/
inductive Severity where
  | info
  | warning
  | error
  | critical
  deriving DecidableEq, Repr

namespace Severity

/-- The name of a severity. -/
def name : Severity → String
  | info => "info"
  | warning => "warning"
  | error => "error"
  | critical => "critical"

/-- The severity as it is printed. -/
def label : Severity → String
  | info => "INFO"
  | warning => "WARNING"
  | error => "ERROR"
  | critical => "CRITICAL"

/-- The rank of a severity among the levels of loggers. -/
def rank : Severity → Int
  | info => 20
  | warning => 30
  | error => 40
  | critical => 50

end Severity

/-- A record in a log. -/
structure Record where
  severity : Severity
  text : String
  deriving DecidableEq, Repr

namespace Record

/-- A record as one entry of a list. -/
def entry (r : Record) : String := r.severity.label ++ " - " ++ r.text

/-- A record as a line on a console. -/
def line (r : Record) : String := r.entry ++ "\n"

/-- Records as the text that they print on a console. -/
def printed (rs : List Record) : String := String.join (rs.map line)

end Record

end PromptGrammar
