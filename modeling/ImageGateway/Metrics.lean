/-!
Counters and histograms. A recording is kept as the list of what was recorded; a series is what
has one name and one set of labels, and its size is the number of recordings in it. Only the
number of samples of a histogram is kept, not the samples themselves.
-/

namespace ImageGateway

/-- A name with labels. -/
structure Series where
  name : String
  labels : List (String × String)
  deriving DecidableEq, Repr

/-- Everything recorded, oldest first. -/
abbrev Metrics := List Series

namespace Metrics

/-- How often a series was recorded. -/
def count (m : Metrics) (s : Series) : Nat := List.count s m

/-- How often any series of a name was recorded. -/
def total (m : Metrics) (name : String) : Nat := m.countP (·.name = name)

/-- Every series once, with its count. -/
def summary (m : Metrics) : List (Series × Nat) :=
  m.eraseDups.map fun s => (s, m.count s)

end Metrics

/-- The outcome label of one run of the image program. -/
inductive Outcome where
  | success
  | missingOutput
  | launchFailure
  | failure
  deriving DecidableEq, Repr

namespace Outcome

def label : Outcome → String
  | .success => "success"
  | .missingOutput => "missing_output"
  | .launchFailure => "launch_failure"
  | .failure => "failure"

/-- What one run records: its outcome and one sample of its duration. -/
def recordings (o : Outcome) : Metrics :=
  [⟨"kai_invocations_total", [("outcome", o.label)]⟩, ⟨"kai_invocation_duration_seconds", []⟩]

end Outcome

end ImageGateway
