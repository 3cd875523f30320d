import ImageGateway.Files.Change
import ImageGateway.Processing

/-!
The pool of workers. A request that is handed in gets a ticket and waits in a queue; at most
`size` requests are worked on at a time, and the answer to each is kept under its ticket. Time is
counted in milliseconds and passes only where a run takes time or somebody waits. What a run does
to the files shows when it ends, and only then is it judged; runs at the same time do not undo one
another's work.
-/

namespace ImageGateway

/-- A request that waits for a worker. -/
structure Job where
  ticket : Nat
  request : Request

/-- A request that a worker has taken. -/
structure Activity where
  ticket : Nat
  /-- The files when it was taken. -/
  before : Files
  attempt : Except Failure Attempt
  /-- When the worker is done with it; an endless run is never done. -/
  ends : Option Nat

/-- The files once an activity has ended: its changes are carried over. -/
def Activity.carried (a : Activity) (files : Files) : Files :=
  match a.attempt with
  | .error _ => files
  | .ok b => Files.carry a.before b.run.files files

/-- A call of the program. -/
structure Call where
  /-- The ticket of the request that it was made for. -/
  ticket : Nat
  args : List String
  /-- The files that the program found. -/
  before : Files

structure Pool where
  /-- The number of workers. -/
  size : Nat
  files : Files
  now : Nat := 0
  /-- The number of tickets handed out. -/
  tickets : Nat := 0
  queued : List Job := []
  running : List Activity := []
  /-- What has ended and is still to be judged. -/
  ended : List Activity := []
  finished : List (Nat × Except Failure String) := []
  /-- Every call of the program so far, oldest first. -/
  calls : List Call := []
  logs : List Log.Event := []
  metrics : Metrics := []

namespace Pool

/-- A number of workers that is at least one. -/
def create (workers : Nat) (files : Files) : Pool := { size := max 1 workers, files := files }

/-- Puts a request at the end of the queue, under the next ticket. -/
def submit (pool : Pool) (r : Request) : Pool :=
  { pool with tickets := pool.tickets + 1, queued := pool.queued ++ [⟨pool.tickets, r⟩] }

/-- What becomes of a job when a worker takes it. -/
def activity (p : Processor) (pool : Pool) (j : Job) : Activity where
  ticket := j.ticket
  before := pool.files
  attempt := p.attempt pool.files j.request
  ends := match p.attempt pool.files j.request with
    | .error _ => some pool.now
    | .ok a => a.run.duration.map (pool.now + ·)

/-- What is logged when a worker takes a job. -/
def takingLogs (p : Processor) (j : Job) : List Log.Event :=
  match j.request.prepare with
  | .error _ => []
  | .ok c => p.startLogs j.request c

/-- The call of the program when a worker takes a job, unless the request is not valid. -/
def takingCalls (pool : Pool) (j : Job) : List Call :=
  match j.request.prepare with
  | .error _ => []
  | .ok c => [⟨j.ticket, c.args, pool.files⟩]

/-- Lets the free workers take the jobs at the front of the queue. -/
def begin (p : Processor) (pool : Pool) : Pool :=
  let free := pool.size - (pool.running.length + pool.ended.length)
  let taken := pool.queued.take free
  { pool with
    queued := pool.queued.drop free
    running := pool.running ++ taken.map (pool.activity p)
    calls := pool.calls ++ taken.flatMap pool.takingCalls
    logs := pool.logs ++ taken.flatMap (takingLogs p) }

/-- The activities with other tickets. -/
def without (ticket : Nat) (l : List Activity) : List Activity := l.filter (·.ticket ≠ ticket)

/-- Ends an activity at a time. -/
def land (pool : Pool) (a : Activity) (time : Nat) : Pool :=
  { pool with
    now := max pool.now time
    running := without a.ticket pool.running
    ended := pool.ended ++ [a]
    files := a.carried pool.files }

/-- Judges an activity that has ended by the files as they are, and keeps its answer. -/
def settle (p : Processor) (pool : Pool) (a : Activity) : Pool :=
  let pool := { pool with ended := without a.ticket pool.ended }
  match a.attempt with
  | .error e => { pool with finished := (a.ticket, .error e) :: pool.finished }
  | .ok b =>
    let c := p.conclude b pool.files
    { pool with
      finished := (a.ticket, c.answer) :: pool.finished
      logs := pool.logs ++ c.logs
      metrics := pool.metrics ++ c.recordings }

/-- Ends an activity at a time and judges it at once. -/
def finish (p : Processor) (pool : Pool) (a : Activity) (time : Nat) : Pool :=
  (pool.land a time).settle p a

/-- The earlier of two ends; of two at the same time the one that began first. -/
def sooner (x : Option (Nat × Activity)) (a : Activity) : Option (Nat × Activity) :=
  match x, a.ends with
  | x, none => x
  | none, some t => some (t, a)
  | some (s, b), some t => if t < s then some (t, a) else some (s, b)

/-- The next activity to end, with the time when it does. -/
def next? (pool : Pool) : Option (Nat × Activity) := pool.running.foldl sooner none

/-- The answer under a ticket, if it is there yet. -/
def answer? (pool : Pool) (ticket : Nat) : Option (Except Failure String) :=
  pool.finished.lookup ticket

/-- Works until `done` or up to a time, whichever comes first. `fuel` bounds the number of
activities that end. -/
def workFor (p : Processor) (deadline : Nat) (done : Pool → Bool) : Nat → Pool → Pool
  | 0, pool => pool
  | fuel + 1, pool =>
    let pool := pool.begin p
    if done pool then pool
    else
      match pool.next? with
      | some (time, a) =>
        if time ≤ deadline then workFor p deadline done fuel (pool.finish p a time)
        else { pool with now := max pool.now deadline }
      | none => { pool with now := max pool.now deadline }

/-- As many activities as can end, and one more step to see that there are no others. -/
def effort (pool : Pool) : Nat := pool.queued.length + pool.running.length + 1

/-- Works until there is an answer under the ticket, but not beyond the deadline. -/
def await (p : Processor) (ticket deadline : Nat) (pool : Pool) : Pool :=
  workFor p deadline (fun pool => (pool.answer? ticket).isSome) pool.effort pool

/-- Works for so many milliseconds. -/
def wait (p : Processor) (milliseconds : Nat) (pool : Pool) : Pool :=
  workFor p (pool.now + milliseconds) (fun _ => false) pool.effort pool

end Pool

end ImageGateway
