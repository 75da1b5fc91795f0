import DesignProps.Text.Case

/-!
# Log levels

A threshold is given as a number or by a name in any case; a name that is not known stands for warnings.

Main statement: `ofName?_name` (every level is found by its name).
-/

set_option autoImplicit false

namespace DesignProps

inductive LogLevel
  | critical
  | error
  | warning
  | info
  | debug
  | everything
  deriving DecidableEq, Repr

namespace LogLevel

def severity : LogLevel → Int
  | .critical => 50
  | .error => 40
  | .warning => 30
  | .info => 20
  | .debug => 10
  | .everything => 0

def name : LogLevel → String
  | .critical => "CRITICAL"
  | .error => "ERROR"
  | .warning => "WARNING"
  | .info => "INFO"
  | .debug => "DEBUG"
  | .everything => "NOTSET"

def all : List LogLevel := [.critical, .error, .warning, .info, .debug, .everything]

/-- Two levels have a second name. -/
def ofName? (s : String) : Option LogLevel :=
  if s = "FATAL" then some .critical
  else if s = "WARN" then some .warning
  else all.find? fun l => l.name == s

end LogLevel

inductive LogThreshold
  | number (n : Int)
  | named (name : String)
  deriving DecidableEq, Repr

def LogThreshold.severity : LogThreshold → Int
  | .number n => n
  | .named name => ((LogLevel.ofName? (Text.upperKeyword name)).getD .warning).severity

theorem LogLevel.ofName?_name (l : LogLevel) : ofName? l.name = some l := by
  cases l <;> decide

end DesignProps
