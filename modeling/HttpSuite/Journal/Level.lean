import HttpSuite.Text.UpperCase

/-!
# Levels of the journal

The levels of events, in order of weight, and their names.
-/

namespace HttpSuite

/-- How much an event weighs. -/
inductive Level
  | debug
  | info
  | warning
  | error
  | critical
  deriving DecidableEq, Repr

namespace Level

/-- The levels from the lightest to the heaviest. -/
def all : List Level := [.debug, .info, .warning, .error, .critical]

/-- The name of a level. -/
def name : Level → String
  | .debug => "DEBUG"
  | .info => "INFO"
  | .warning => "WARNING"
  | .error => "ERROR"
  | .critical => "CRITICAL"

/-- The weight of a level. -/
def weight : Level → Nat
  | .debug => 10
  | .info => 20
  | .warning => 30
  | .error => 40
  | .critical => 50

/-- The level with a given name in any case. -/
def ofName? (name : String) : Option Level :=
  all.find? (·.name == Text.upperCase name)

end Level

end HttpSuite
