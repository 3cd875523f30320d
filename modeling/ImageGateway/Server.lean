import ImageGateway.Http.Service
import ImageGateway.Listener
import ImageGateway.Log.Filter

/-!
The start of the program. The configuration comes first, then the log, the service and the
listeners; the first step that fails ends it. A failure before the log is set up is not logged,
and every failure is reported at the end with its causes. A panic ends it as well, with a report
of the runtime's that is left out here.
-/

namespace ImageGateway.Server

/-- What the program is told by its environment. -/
structure Environment where
  /-- Where the configuration is. -/
  configPath : Option Bytes := none
  /-- What is to be logged. -/
  logFilter : Option String := none

/-- How a start went. -/
structure Start where
  /-- The texts of the failure that ended it, outermost first. -/
  failure : Option (List String) := none
  /-- The lines of the log. -/
  lines : List String := []
  /-- The failure was a panic. -/
  panicked : Bool := false
  deriving DecidableEq, Repr

namespace Start

/-- A start that is ended by this failure. -/
def failed (t : Trouble) (lines : List String) : Start where
  failure := some t.chain
  lines := lines
  panicked := t.cause = .overflow

def succeeded (s : Start) : Bool := s.failure.isNone

def exitCode (s : Start) : Nat := if s.panicked then 101 else if s.succeeded then 0 else 1

end Start

/-- A text with its further lines set in as far as its first. -/
def setIn (first : String) (text : String) : String :=
  let blank := String.ofList (List.replicate first.length ' ')
  first ++ ("\n" ++ blank).intercalate ((Path.segments '\n' text.toList).map String.ofList)

/-- Causes one below the other, with their numbers if there are several. -/
def causeLines (causes : List String) : List String :=
  match causes with
  | [cause] => [setIn "    " cause]
  | causes => causes.zipIdx.map fun (cause, n) =>
    let number := toString n
    setIn (String.ofList (List.replicate (5 - number.length) ' ') ++ number ++ ": ") cause

/-- A failure as it is reported at the end. -/
def report : List String → String
  | [] => ""
  | [outermost] => "Error: " ++ outermost ++ "\n"
  | outermost :: causes =>
    "Error: " ++ outermost ++ "\n\nCaused by:\n" ++ "\n".intercalate (causeLines causes) ++ "\n"

/-- What the program says of its start when it ends. -/
def Start.report (s : Start) : String :=
  if s.panicked then "" else (s.failure.map Server.report).getD ""

/-- Starts from what the configuration file holds. -/
def startWith (cwd : Place) (cwdPath : String) (taken : List Address) (env : Environment)
    (path : String) (content : Except SystemFault Bytes) : Start :=
  match Config.ofContent path content with
  | .error e => { failure := some (e.chain path) }
  | .ok config =>
    let filter := Log.Filter.fromEnvironment env.logFilter
    let (service, logs) := Http.Service.create cwd cwdPath config
    match service with
    | .error t => .failed t (filter.lines logs)
    | .ok _ =>
      let (opened, more) := Listener.openAll taken config.app.listen (some config.app.metricsListen)
      let lines := filter.lines (logs ++ more)
      match opened with
      | .error t => .failed t lines
      | .ok () => { lines }

/-- Starts with the configuration file where the environment says it is. -/
def start (fs : Files) (cwd : Place) (cwdPath : String) (taken : List Address)
    (env : Environment) : Start :=
  let path := Config.pathFrom env.configPath
  startWith cwd cwdPath taken env path ((fs.find cwd path).bind Entry.content?)

end ImageGateway.Server
