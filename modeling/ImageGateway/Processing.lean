import ImageGateway.Request
import ImageGateway.Runner
import ImageGateway.Files.Access
import ImageGateway.Metrics

/-!
One request to the image program from validation to outcome. The program is called once if the
request is valid and not at all otherwise; a run that ends well counts as success only if a
regular file is then at the place of the output.
-/

namespace ImageGateway

/-- Everything that processing a request brings about. -/
structure Processed where
  files : Files
  answer : Except Failure String
  logs : List Log.Event
  recordings : Metrics
  /-- The argument lists that the program was called with. -/
  calls : List (List String)

/-- A prepared request with its run. -/
structure Attempt where
  prepared : Prepared
  run : Run

/-- What is made of a run once it is over. -/
structure Conclusion where
  answer : Except Failure String
  logs : List Log.Event
  recordings : Metrics

/-- Processes requests with one runner; `cwd` is the directory the service itself is in. -/
structure Processor where
  runner : Runner
  cwd : Place

namespace Processor

private def target : String := "kai_demo::kai::handler"

/-- Where a path that the program was given lies for the service. -/
def resolve (p : Processor) (path : String) : String := Path.join p.runner.workingDir path

def startEvent (r : Request) (c : Prepared) : Log.Event where
  level := .info
  target := target
  message := "processing image"
  fields := [("input", .text r.inputImagePath), ("output", .text c.outputImagePath),
    ("ml_config", .text r.mlConfig), ("options", .text c.optionsDisplay)]

/-- What is logged before the program runs. -/
def startLogs (p : Processor) (r : Request) (c : Prepared) : List Log.Event :=
  startEvent r c :: p.runner.announce c.args

/-- An exit code or its absence, as the log shows it. -/
def codeText : Option Int → String
  | some code => s!"Some({code})"
  | none => "None"

/-- Judges a run by its answer and by the files after it. -/
def judge (p : Processor) (c : Prepared) (answer : Except Failure RunOutput) (after : Files) :
    Except Failure Unit × List Log.Event :=
  match answer with
  | .error e => (.error e, [])
  | .ok out =>
    let said : List Log.Event :=
      if out.stdout = "" then []
      else [⟨.debug, target, "KAI-impl output", [("stdout", .text (Text.trimEnd out.stdout))]⟩]
    if out.success then
      let place := p.resolve c.outputImagePath
      if after.isFile p.cwd place then (.ok (), said)
      else (.error (.missingOutput place), said ++
        [⟨.warn, target, "KAI-impl exited cleanly without writing output",
          [("output", .text place)]⟩])
    else
      let stderr := Text.trimEnd out.stderr
      (.error (.run out.code stderr), said ++
        [⟨.warn, target, "KAI-impl failed",
          [("code", .text (codeText out.code)), ("stderr", .text stderr)]⟩])

/-- The label under which a run is counted. -/
def outcome : Except Failure Unit → Outcome
  | .ok () => .success
  | .error (.missingOutput _) => .missingOutput
  | .error (.launch _ _) => .launchFailure
  | .error _ => .failure

/-- Runs the program, if the request is valid. -/
def attempt (p : Processor) (fs : Files) (r : Request) : Except Failure Attempt :=
  r.prepare.map fun c => ⟨c, p.runner.run c.args fs⟩

/-- Concludes an attempt from the files after its run. -/
def conclude (p : Processor) (a : Attempt) (after : Files) : Conclusion :=
  let (verdict, logs) := p.judge a.prepared a.run.answer after
  { answer := verdict.map fun () => a.prepared.outputImagePath
    logs := logs
    recordings := (outcome verdict).recordings }

def process (p : Processor) (fs : Files) (r : Request) : Processed :=
  match p.attempt fs r with
  | .error e => ⟨fs, .error e, [], [], []⟩
  | .ok a =>
    let c := p.conclude a a.run.files
    { files := a.run.files
      answer := c.answer
      logs := p.startLogs r a.prepared ++ c.logs
      recordings := c.recordings
      calls := [a.prepared.args] }

end Processor

end ImageGateway
