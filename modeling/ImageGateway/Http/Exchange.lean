import ImageGateway.Http.Service
import ImageGateway.Pool
import ImageGateway.Uuid

/-!
Requests and their responses in time. A client that has waited too long is sent away with nothing,
but its request is not withdrawn: the workers go on with it. Every response is counted under the
method, the route and the status, once it is known.
-/

namespace ImageGateway.Http

/-- A service with its workers. -/
structure Exchange where
  service : Service
  pool : Pool
  /-- The number of identifiers drawn for uploads. -/
  drawn : Nat := 0

namespace Exchange

def create (service : Service) (files : Files) : Exchange :=
  { service, pool := .create service.workers files }

/-- A client waited in vain. -/
def timedOut : Response := .empty 408

/-- Has the work done and answers, unless that takes too long. -/
def perform (x : Exchange) (request : ImageGateway.Request) (wanted : Reply) :
    Exchange × Response :=
  let ticket := x.pool.tickets
  let deadline := x.pool.now + x.service.patience
  let pool := (x.pool.submit request).await x.service.processor ticket deadline
  match pool.answer? ticket with
  | none => ({ x with pool }, timedOut)
  | some answer =>
    let (response, logs) := x.service.reply pool.files wanted answer
    ({ x with pool := { pool with logs := pool.logs ++ logs } }, response)

/-- The response to a request, before it is counted. -/
def respond (x : Exchange) (r : Request) : Exchange × Response :=
  let id := Uuid.v4 x.drawn
  let (files, received, logs) := x.service.receive x.pool.files id r
  let x := { x with
    pool := { x.pool with files := files, logs := x.pool.logs ++ logs }, drawn := x.drawn + 1 }
  match received with
  | .answered response => (x, response)
  | .work request wanted => x.perform request wanted

/-- What a request is counted under: its route if there is one, else its own path. -/
def pathLabel (s : Service) (r : Request) : String :=
  ((Route.of? s.openApi r.path).map Route.template).getD r.path

/-- What is recorded for a response. -/
def recordings (s : Service) (r : Request) (status : Nat) : Metrics :=
  let labels := [("method", r.method), ("path", pathLabel s r), ("status", toString status)]
  [⟨"http_requests_total", labels⟩, ⟨"http_requests_duration_seconds", labels⟩]

/-- Answers a request; the body is held back if only the headers are wanted. -/
def handle (x : Exchange) (r : Request) : Exchange × Response :=
  let (x, response) := x.respond r
  let metrics := x.pool.metrics ++ recordings x.service r response.status
  ({ x with pool := { x.pool with metrics } },
    if r.method = "HEAD" then { response with body := [] } else response)

/-- Lets time pass. -/
def wait (x : Exchange) (milliseconds : Nat) : Exchange :=
  { x with pool := x.pool.wait x.service.processor milliseconds }

end Exchange

end ImageGateway.Http
