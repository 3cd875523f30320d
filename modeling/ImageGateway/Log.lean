/-!
Log events as values. Everything that logs returns its events in order; who shows them, and which,
is decided outside.
-/

namespace ImageGateway.Log

inductive Level where
  | error
  | warn
  | info
  | debug
  | trace
  deriving DecidableEq, Repr

namespace Level

def name : Level → String
  | .error => "ERROR"
  | .warn => "WARN"
  | .info => "INFO"
  | .debug => "DEBUG"
  | .trace => "TRACE"

/-- How much a level lets through: one that shows more has the larger number. -/
def verbosity : Level → Nat
  | .error => 1
  | .warn => 2
  | .info => 3
  | .debug => 4
  | .trace => 5

end Level

inductive Value where
  | text (s : String)
  | number (n : Nat)
  deriving DecidableEq, Repr

def Value.display : Value → String
  | .text s => s
  | .number n => toString n

structure Event where
  level : Level
  /-- The part of the program that speaks; filters go by it. -/
  target : String
  message : String
  fields : List (String × Value) := []
  deriving DecidableEq, Repr

/-- The event on one line, as standard output shows it after the time. -/
def Event.line (e : Event) : String :=
  " ".intercalate (e.level.name :: e.message ::
    e.fields.map fun f => f.1 ++ "=" ++ f.2.display)

end ImageGateway.Log
