import ImageGateway.Proofs.Http.Exchange

/-!
The desk where requests are handed in and responses given out. Behind it are the workers, before it
the clients, and each request that is handed in has a channel of its own through which its answer
comes back. A client may be sent away at any time before its response; then its channel is closed
from its side, and nothing else happens. `Desk.Step` says what may happen, in any order, and what is
to be seen of it. What an exchange does is a run of such steps (`Exchange.History.trace`).
-/

namespace ImageGateway.Http

/-- The channel of a request, from the side of its client. -/
inductive Channel where
  /-- The client waits for a reply of this kind. -/
  | waiting (wanted : Reply)
  /-- The answer has come through and is to be put into a response. -/
  | received (wanted : Reply) (answer : Except Failure String)
  /-- The client has its response. Nobody listens any more. -/
  | closed

/-- The workers with the channels of the tickets that were handed out. -/
structure Desk where
  pool : Pool
  channel : Nat → Option Channel := fun _ => none

namespace Desk

/-- What is to be seen of a step. -/
inductive Event where
  | submit (ticket : Nat) (request : ImageGateway.Request) (wanted : Reply)
  /-- A worker begins to process the request; these are the files then. -/
  | start (ticket : Nat) (before : Files)
  /-- The worker is done, with these files and this answer. -/
  | finish (ticket : Nat) (after : Files) (answer : Except Failure String)
  | deliver (ticket : Nat) (answer : Except Failure String)
  | respond (ticket : Nat) (response : Response)
  | timeOut (ticket : Nat)
  | other

/-- Nothing has been handed in. -/
def start (s : Service) (files : Files) : Desk := { pool := .create s.workers files }

variable {s : Service} {x y z : Desk} {e : Event} {es fs : List Event} {t : Nat}

def submit (x : Desk) (r : ImageGateway.Request) (wanted : Reply) : Desk where
  pool := x.pool.submit r
  channel := Function.update x.channel x.pool.tickets (some (.waiting wanted))

def turn (x : Desk) (t : Nat) (c : Channel) : Desk :=
  { x with channel := Function.update x.channel t (some c) }

/-- One thing that happens. -/
inductive Step (s : Service) : Desk → Event → Desk → Prop where
  | submit {x : Desk} (r : ImageGateway.Request) (wanted : Reply) :
    Step s x (.submit x.pool.tickets r wanted) (x.submit r wanted)
  | start {x : Desk} {j : Job} {front rest : List Job} : x.pool.queued = front ++ j :: rest →
    x.pool.running.length + x.pool.ended.length < x.pool.size →
    Step s x (.start j.ticket x.pool.files)
      { x with pool := x.pool.taking s.processor j (front ++ rest) }
  /-- The program that a worker has called comes to its end. -/
  | exit {x : Desk} {a : Activity} (time : Nat) : a ∈ x.pool.running → a.ends ≠ none →
    Step s x .other { x with pool := x.pool.land a time }
  | finish {x : Desk} {a : Activity} : a ∈ x.pool.ended →
    Step s x (.finish a.ticket x.pool.files (Pool.verdict s.processor x.pool.files a.attempt))
      { x with pool := x.pool.settle s.processor a }
  | deliver {x : Desk} {t : Nat} {wanted : Reply} {answer : Except Failure String} :
    x.channel t = some (.waiting wanted) → x.pool.answer? t = some answer →
    Step s x (.deliver t answer) (x.turn t (.received wanted answer))
  | respond {x : Desk} {t : Nat} {wanted : Reply} {answer : Except Failure String} :
    x.channel t = some (.received wanted answer) →
    Step s x (.respond t (s.reply x.pool.files wanted answer).1) (x.turn t .closed)
  | timeOut {x : Desk} {t : Nat} {c : Channel} : x.channel t = some c → c ≠ .closed →
    Step s x (.timeOut t) (x.turn t .closed)
  /-- Time passes, something is noted, or the files are changed from elsewhere. -/
  | other {x : Desk} (files : Files) (now : Nat) (logs : List Log.Event) (metrics : Metrics) :
    Step s x .other { x with pool := { x.pool with files, now, logs, metrics } }

/-- Steps one after the other, with what is to be seen of them. -/
inductive Trace (s : Service) (x : Desk) : List Event → Desk → Prop where
  | nil : Trace s x [] x
  | snoc {es : List Event} {e : Event} {y z : Desk} : Trace s x es y → Step s y e z →
    Trace s x (es ++ [e]) z

theorem Trace.single (h : Step s x e y) : Trace s x [e] y := .snoc .nil h

theorem Trace.trans (h : Trace s x es y) (h' : Trace s y fs z) : Trace s x (es ++ fs) z := by
  induction h' with
  | nil => rwa [List.append_nil]
  | snoc _ step ih =>
    rw [← List.append_assoc]
    exact ih.snoc step

/-- Every event of a run is that of a step between two parts of the run. -/
theorem Trace.split (h : Trace s x (es ++ e :: fs) z) :
    ∃ y y', Trace s x es y ∧ Step s y e y' ∧ Trace s y' fs z := by
  generalize hl : es ++ e :: fs = l at h
  induction h generalizing fs with
  | nil => simp at hl
  | @snoc l e' y z run step ih =>
    rcases List.eq_nil_or_concat fs with rfl | ⟨fs, f, rfl⟩
    · obtain ⟨rfl, he⟩ := List.append_inj' hl rfl
      cases he
      exact ⟨y, z, run, step, .nil⟩
    · rw [List.concat_eq_append, ← List.cons_append, ← List.append_assoc] at hl
      obtain ⟨front, last⟩ := List.append_inj' hl rfl
      cases last
      obtain ⟨u, v, before, middle, after⟩ := ih front
      rw [List.concat_eq_append]
      exact ⟨u, v, before, middle, after.snoc step⟩

/-! ## Responses -/

/-- The response that a client gets, with its ticket. -/
def Event.response? : Event → Option (Nat × Response)
  | .respond t response => some (t, response)
  | .timeOut t => some (t, Exchange.timedOut)
  | _ => none

def responses (es : List Event) : List (Nat × Response) := es.filterMap Event.response?

@[simp] theorem channel_turn_self {c : Channel} : (x.turn t c).channel t = some c :=
  Function.update_self _ _ _

/-! ## The exchange -/

theorem trace_of_steps {pool : Pool} (h : Pool.Steps s.processor x.pool pool) :
    ∃ es, Trace s x es { x with pool } := by
  induction h with
  | refl => exact ⟨[], .nil⟩
  | @tail pool pool' _ step ih =>
    obtain ⟨es, run⟩ := ih
    generalize hy : ({ x with pool } : Desk) = y at run
    have same : y.pool = pool := by rw [← hy]
    have channel : y.channel = x.channel := by rw [← hy]
    subst same
    rw [← channel]
    cases step with
    | take hq hs => exact ⟨_, run.snoc (.start hq hs)⟩
    | land time ha he => exact ⟨_, run.snoc (.exit time ha he)⟩
    | settle ha => exact ⟨_, run.snoc (.finish ha)⟩
    | pass now logs metrics => exact ⟨_, run.snoc (.other _ now logs metrics)⟩

end Desk

namespace Exchange

open Desk

variable {s : Service} {x : Exchange} {d : Desk}

/-- The work for a request, from the desk: it is handed in, and its client gets the response. -/
theorem perform_trace (hs : x.service = s) (hd : d.pool = x.pool) (q : ImageGateway.Request)
    (wanted : Reply) : ∃ es y, Trace s d es y ∧ y.pool = (x.perform q wanted).1.pool ∧
      (x.pool.tickets, (x.perform q wanted).2) ∈ responses es := by
  have submitted : Trace s d [.submit x.pool.tickets q wanted] (d.submit q wanted) := by
    rw [← hd]
    exact .single (.submit q wanted)
  have waits : (d.submit q wanted).channel x.pool.tickets = some (.waiting wanted) := by
    rw [← hd]
    exact Function.update_self _ _ _
  have handed : (d.submit q wanted).pool = x.pool.submit q := by rw [← hd, Desk.submit]
  have steps := worked_steps hs q
  rw [← handed] at steps
  obtain ⟨es, worked⟩ := trace_of_steps steps
  have run := submitted.trans worked
  generalize ([.submit x.pool.tickets q wanted] ++ es : List Event) = es at run
  rw [perform_eq]
  cases hanswer : (x.worked q).answer? x.pool.tickets with
  | none =>
    refine ⟨_, _, run.snoc (.timeOut waits nofun), rfl, ?_⟩
    simp [responses, Event.response?]
  | some answer =>
    have delivered := run.snoc (.deliver waits hanswer)
    have responded := delivered.snoc (.respond channel_turn_self)
    have noted := responded.snoc (.other (x.worked q).files (x.worked q).now
      ((x.worked q).logs ++ (x.service.reply (x.worked q).files wanted answer).2)
      (x.worked q).metrics)
    refine ⟨_, _, noted, rfl, ?_⟩
    simp only [responses, List.filterMap_append, List.mem_append, List.mem_filterMap,
      List.mem_singleton]
    refine .inl (.inr ⟨_, rfl, ?_⟩)
    rw [Event.response?, hs]
    rfl

/-- A request at an exchange is one at the desk, with the same response if it is worked on. -/
theorem handle_trace (hs : x.service = s) (hd : d.pool = x.pool) (r : Request) :
    ∃ es y, Trace s d es y ∧ y.pool = (x.handle r).1.pool ∧
      ∀ q wanted, (x.service.receive x.pool.files (Uuid.v4 x.drawn) r).2.1 = .work q wanted →
        (x.pool.tickets, (x.respond r).2) ∈ responses es := by
  have received : Trace s d [.other] { d with pool := (x.received r).pool } := by
    have := @Step.other s d (x.received r).pool.files d.pool.now (x.received r).pool.logs
      d.pool.metrics
    rw [hd] at this
    exact .single this
  -- At the end the response is counted.
  have counted {es : List Event} {y : Desk} (run : Trace s d es y)
      (hy : y.pool = (x.respond r).1.pool) :
      Trace s d (es ++ [.other]) { y with pool := (x.handle r).1.pool } := by
    have last := run.snoc
      (.other y.pool.files y.pool.now y.pool.logs (x.handle r).1.pool.metrics)
    rwa [hy] at last
  cases hreceive : (x.service.receive x.pool.files (Uuid.v4 x.drawn) r).2.1 with
  | answered response =>
    have hrespond := respond_of_answered hreceive
    exact ⟨_, _, counted received (by rw [hrespond]), rfl, nofun⟩
  | work q wanted =>
    have hrespond := respond_of_work hreceive
    obtain ⟨es, y, run, hy, responded⟩ := perform_trace ((received_service x r).trans hs)
      (d := { d with pool := (x.received r).pool }) rfl q wanted
    refine ⟨_, _, counted (received.trans run) (by rw [hrespond, hy]), rfl, fun _ _ _ => ?_⟩
    rw [hrespond, responses, List.filterMap_append, List.filterMap_append]
    exact List.mem_append_left _ (List.mem_append_right _ responded)

/-- Whatever is asked of an exchange, its workers are those behind a desk. -/
theorem History.trace {files : Files} (h : History (create s files) x) :
    ∃ es y, Trace s (start s files) es y ∧ y.pool = x.pool := by
  induction h with
  | refl => exact ⟨[], _, .nil, rfl⟩
  | @handle y r hy ih =>
    obtain ⟨es, d, run, hd⟩ := ih
    obtain ⟨es', d', more, hd', -⟩ := handle_trace hy.sound.2 hd r
    exact ⟨_, d', run.trans more, hd'⟩
  | @wait y milliseconds hy ih =>
    obtain ⟨es, d, run, hd⟩ := ih
    have steps := wait_steps hy.sound.2 milliseconds
    rw [← hd] at steps
    obtain ⟨es', more⟩ := trace_of_steps steps
    exact ⟨_, _, run.trans more, rfl⟩

end Exchange

end ImageGateway.Http
