/-!
# Log levels

The severities of log records, in increasing order, with their names.
-/

namespace Transplant.Log

/-- The severity of a log record. -/
inductive Level where
  | trace
  | debug
  | info
  | success
  | warning
  | error
  | critical
deriving DecidableEq, Repr, Inhabited

namespace Level

/-- The levels by increasing severity. -/
def all : List Level :=
  [.trace, .debug, .info, .success, .warning, .error, .critical]

/-- The name of a level. -/
def name : Level → String
  | .trace => "TRACE"
  | .debug => "DEBUG"
  | .info => "INFO"
  | .success => "SUCCESS"
  | .warning => "WARNING"
  | .error => "ERROR"
  | .critical => "CRITICAL"

/-- The weight of a level; a sink takes the records whose weight is not below its own. -/
def weight : Level → Nat
  | .trace => 5
  | .debug => 10
  | .info => 20
  | .success => 25
  | .warning => 30
  | .error => 40
  | .critical => 50

/-- The level with exactly this name. -/
def ofName? (s : String) : Option Level :=
  all.find? fun l => l.name == s

/-- The levels that a configuration may select. -/
def configurable : List Level :=
  [.debug, .info, .warning, .error, .critical]

end Level

end Transplant.Log
