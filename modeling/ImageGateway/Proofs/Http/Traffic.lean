import ImageGateway.Proofs.Http.Exchange
import Mathlib.Logic.Function.Basic

/-!
Many clients at a time. `Traffic.Step` is one thing that may happen while the service deals with
their requests: one of them gets a stage further, its client is sent away, or there is a step in
the pool. The steps of all clients and of the workers come in any order. What
`Exchange.respond` does for one request is a run of such steps (`Traffic.respond_steps`), and no
request is stuck as long as its client waits (`Traffic.Fits.answerable`).
-/

namespace ImageGateway.Http

/-- What an upload does to the files before it is handed in. -/
inductive Access where
  | making
  | writing
  deriving DecidableEq, Repr

/-- How far the service has got with a request. -/
inductive Stage where
  | arrived
  | ready
  | stored
  /-- It is with the workers, for a reply of this kind. -/
  | waiting (wanted : Reply)
  | judged (wanted : Reply) (answer : Except Failure String)
  | answered (response : Response)
  /-- The client was sent away. What was being done to the files is still done. -/
  | away (pending : Option Access)

namespace Access

def run (s : Service) (fs : Files) (id : String) (u : Submission) :
    Access → Files × Except Trouble Unit
  | making => s.uploads.makeReady s.processor.cwd fs
  | writing =>
    let (fs, answer) := s.uploads.write s.processor.cwd fs id u.suffix.text u.data
    (fs, answer.map fun _ => ())

def due : Access → Stage
  | making => .arrived
  | writing => .ready

def next : Access → Except Trouble Unit → Stage
  | _, .error t => .answered (Error.internal t.head).response
  | making, .ok () => .ready
  | writing, .ok () => .stored

/-- It leaves an image on disk. -/
def stores : Access → Except Trouble Unit → Bool
  | writing, .ok () => true
  | _, _ => false

end Access

/-- The requests of all clients with the pool that they share. -/
structure Traffic (ι : Type _) where
  pool : Pool
  stage : ι → Stage := fun _ => .arrived
  ticket : ι → Option Nat := fun _ => none
  staged : ι → Bool := fun _ => false

namespace Traffic

/-- All requests have arrived, and nothing has been done for any of them. -/
def start (ι : Type _) (workers : Nat) (files : Files) : Traffic ι :=
  { pool := .create workers files }

variable {ι : Type _} [DecidableEq ι]

def move (x : Traffic ι) (i : ι) (stage : Stage) : Traffic ι :=
  { x with stage := Function.update x.stage i stage }

def handIn (x : Traffic ι) (i : ι) (q : ImageGateway.Request) (wanted : Reply) : Traffic ι :=
  { x with
    pool := x.pool.submit q
    stage := Function.update x.stage i (.waiting wanted)
    ticket := Function.update x.ticket i (some x.pool.tickets) }

/-- An access to the files is made for a request. -/
def access (x : Traffic ι) (s : Service) (id : String) (i : ι) (u : Submission) (a : Access)
    (next : Except Trouble Unit → Stage) : Traffic ι :=
  let (files, answer) := a.run s x.pool.files id u
  { x with
    pool := { x.pool with files }
    stage := Function.update x.stage i (next answer)
    staged := Function.update x.staged i (x.staged i || a.stores answer) }

/-- One thing that happens. The requests and the numbers drawn for them are given. -/
inductive Step (s : Service) (request : ι → Request) (drawn : ι → Nat) :
    Traffic ι → Traffic ι → Prop where
  | answer {x : Traffic ι} {i : ι} {response : Response} : x.stage i = .arrived →
    s.demand (request i) = .answered response →
    Step s request drawn x (x.move i (.answered response))
  | access {x : Traffic ι} {i : ι} {u : Submission} (a : Access) : x.stage i = a.due →
    s.demand (request i) = .upload u →
    Step s request drawn x (x.access s (Uuid.v4 (drawn i)) i u a a.next)
  | ask {x : Traffic ι} {i : ι} {q : ImageGateway.Request} {wanted : Reply} :
    x.stage i = .arrived → s.demand (request i) = .work q wanted →
    Step s request drawn x (x.handIn i q wanted)
  | submit {x : Traffic ι} {i : ι} {u : Submission} : x.stage i = .stored →
    s.demand (request i) = .upload u → Step s request drawn x
      (x.handIn i (u.request (s.uploads.place (Uuid.v4 (drawn i)) u.suffix.text)) .image)
  | work {x : Traffic ι} {pool : Pool} : Pool.Step s.processor x.pool pool →
    Step s request drawn x { x with pool }
  | deliver {x : Traffic ι} {i : ι} {t : Nat} {wanted : Reply} {answer : Except Failure String} :
    x.stage i = .waiting wanted → x.ticket i = some t → x.pool.answer? t = some answer →
    Step s request drawn x (x.move i (.judged wanted answer))
  /-- The answer is put into a response, with the output image if that is wanted. -/
  | reply {x : Traffic ι} {i : ι} {wanted : Reply} {answer : Except Failure String} :
    x.stage i = .judged wanted answer →
    Step s request drawn x (x.move i (.answered (s.reply x.pool.files wanted answer).1))
  /-- A client has waited too long, possibly in the middle of an access to the files. -/
  | leave {x : Traffic ι} {i : ι} (pending : Option Access) :
    (∀ response, x.stage i ≠ .answered response) → (∀ pending, x.stage i ≠ .away pending) →
    (∀ a ∈ pending, x.stage i = a.due) → Step s request drawn x (x.move i (.away pending))
  /-- An access that was under way comes to its end. -/
  | linger {x : Traffic ι} {i : ι} {u : Submission} {a : Access} : x.stage i = .away (some a) →
    s.demand (request i) = .upload u →
    Step s request drawn x (x.access s (Uuid.v4 (drawn i)) i u a fun _ => .away none)

abbrev Steps (s : Service) (request : ι → Request) (drawn : ι → Nat) :
    Traffic ι → Traffic ι → Prop :=
  Relation.ReflTransGen (Step s request drawn)

variable {s : Service} {request : ι → Request} {drawn : ι → Nat} {x : Traffic ι} {e : Exchange}
  {i : ι} {q : ImageGateway.Request} {wanted : Reply} {u : Submission}

/-- An access that changes nothing on disk only brings the request to its next stage. -/
theorem access_eq_move {id : String} {a : Access} {next : Except Trouble Unit → Stage}
    {answer : Except Trouble Unit} (h : a.run s x.pool.files id u = (x.pool.files, answer))
    (hs : a.stores answer = false) : x.access s id i u a next = x.move i (next answer) := by
  rw [access, h]
  simp [move, hs]

/-! ## One request after the other -/

theorem work_steps {pool : Pool} (h : Pool.Steps s.processor x.pool pool) :
    Steps s request drawn x { x with pool } := by
  induction h with
  | refl => exact .refl
  | tail _ step ih => exact ih.tail (.work step)

theorem log_step {pool : Pool} {logs : List Log.Event} (h : pool = { x.pool with logs }) :
    Step s request drawn x { x with pool } := by
  subst h
  exact .work (.pass _ _ _)

/-- How an exchange ends for a client: with the response, unless that takes too long. -/
def Ends (x : Traffic ι) (i : ι) (response : Response) : Prop :=
  x.stage i = .answered response ∨ x.stage i = .away none ∧ response = Exchange.timedOut

/-- Two states are the same for all other clients. -/
def SameFor (x y : Traffic ι) (i : ι) : Prop :=
  ∀ j, j ≠ i → y.stage j = x.stage j ∧ y.ticket j = x.ticket j ∧ y.staged j = x.staged j

section

variable {y z : Traffic ι} {stage : Stage} {j : ι}

@[simp] theorem stage_move_self : (x.move i stage).stage i = stage := Function.update_self _ _ _

@[simp] theorem stage_handIn_self : (x.handIn i q wanted).stage i = .waiting wanted :=
  Function.update_self _ _ _

theorem stage_access_self {id : String} {a : Access} {next : Except Trouble Unit → Stage} :
    (x.access s id i u a next).stage i = next (a.run s x.pool.files id u).2 :=
  Function.update_self _ _ _

omit [DecidableEq ι] in
theorem SameFor.refl (x : Traffic ι) : x.SameFor x i := fun _ _ => ⟨rfl, rfl, rfl⟩

omit [DecidableEq ι] in
theorem SameFor.trans (h : x.SameFor y i) (h' : y.SameFor z i) : x.SameFor z i := by
  intro j hj
  obtain ⟨h₁, h₂, h₃⟩ := h j hj
  obtain ⟨h₁', h₂', h₃'⟩ := h' j hj
  exact ⟨h₁'.trans h₁, h₂'.trans h₂, h₃'.trans h₃⟩

theorem sameFor_move : x.SameFor (x.move i stage) i :=
  fun _ hj => ⟨Function.update_of_ne hj _ _, rfl, rfl⟩

theorem sameFor_handIn : x.SameFor (x.handIn i q wanted) i :=
  fun _ hj => ⟨Function.update_of_ne hj _ _, Function.update_of_ne hj _ _, rfl⟩

theorem sameFor_access {id : String} {a : Access} {next : Except Trouble Unit → Stage} :
    x.SameFor (x.access s id i u a next) i :=
  fun _ hj => ⟨Function.update_of_ne hj _ _, rfl, Function.update_of_ne hj _ _⟩

end

theorem reply_steps {t : Nat} {answer : Except Failure String} (hi : x.stage i = .waiting wanted)
    (ht : x.ticket i = some t) (ha : x.pool.answer? t = some answer) :
    ∃ y, Steps s request drawn x y ∧
      y.pool = { x.pool with logs := x.pool.logs ++ (s.reply x.pool.files wanted answer).2 } ∧
      y.stage i = .answered (s.reply x.pool.files wanted answer).1 ∧ x.SameFor y i := by
  have delivered : Step s request drawn x (x.move i (.judged wanted answer)) :=
    .deliver hi ht ha
  have replied : Step s request drawn (x.move i (.judged wanted answer))
      ((x.move i (.judged wanted answer)).move i
        (.answered (s.reply x.pool.files wanted answer).1)) :=
    .reply (Function.update_self _ _ _)
  have same : x.SameFor ((x.move i (.judged wanted answer)).move i
      (.answered (s.reply x.pool.files wanted answer).1)) i :=
    sameFor_move.trans sameFor_move
  refine ⟨_, ((Relation.ReflTransGen.single delivered).tail replied).tail
    (.work (.pass _ _ _)), rfl, Function.update_self _ _ _, same⟩

/-- The work for a request that was handed in, from the side of the client. -/
theorem perform_steps (he : e.service = s) (hx : x.pool = e.pool) :
    ∃ y, Steps s request drawn (x.handIn i q wanted) y ∧
      y.pool = (e.perform q wanted).1.pool ∧ y.Ends i (e.perform q wanted).2 ∧ x.SameFor y i := by
  have handed := @sameFor_handIn _ _ x i q wanted
  have steps := Exchange.worked_steps he q
  have start : (x.handIn i q wanted).pool = e.pool.submit q := by rw [← hx]; rfl
  have ticket : (x.handIn i q wanted).ticket i = some e.pool.tickets := by
    rw [← hx]
    exact Function.update_self _ _ _
  have stage : (x.handIn i q wanted).stage i = .waiting wanted := Function.update_self _ _ _
  rw [← start] at steps
  -- From here on it only counts that the request is with the workers.
  generalize x.handIn i q wanted = y at handed steps ticket stage
  have worked : Steps s request drawn y { y with pool := e.worked q } := work_steps steps
  rw [Exchange.perform_eq]
  cases hanswer : (e.worked q).answer? e.pool.tickets with
  | none =>
    have left : Step s request drawn { y with pool := e.worked q }
        (({ y with pool := e.worked q } : Traffic ι).move i (.away none)) :=
      .leave none (by simp [stage]) (by simp [stage]) nofun
    exact ⟨_, worked.tail left, rfl, .inr ⟨Function.update_self _ _ _, rfl⟩,
      handed.trans sameFor_move⟩
  | some answer =>
    obtain ⟨z, replied, pool, answered, same⟩ :=
      @reply_steps _ _ s request drawn { y with pool := e.worked q } _ _ _ _ stage ticket hanswer
    simp only [he]
    exact ⟨z, worked.trans replied, pool, .inl answered, handed.trans same⟩

/-- An image is stored by the two accesses that it takes, or the first that fails is answered. -/
theorem stage_steps (hi : x.stage i = .arrived) (hd : s.demand (request i) = .upload u) :
    let staged := s.stage x.pool.files (Uuid.v4 (drawn i)) u
    ∃ y, Steps s request drawn x y ∧ y.pool = { x.pool with files := staged.1 } ∧ x.SameFor y i ∧
      match staged.2.1 with
      | .answered response => y.stage i = .answered response
      | .work q wanted => y.stage i = .stored ∧ wanted = .image ∧
          q = u.request (s.uploads.place (Uuid.v4 (drawn i)) u.suffix.text) := by
  have made : Step s request drawn x (x.access s (Uuid.v4 (drawn i)) i u .making
      (Access.next .making)) := .access .making hi hd
  rw [Service.stage, UploadStore.store]
  cases hm : s.uploads.makeReady s.processor.cwd x.pool.files with
  | mk ready answer =>
    have run : Access.making.run s x.pool.files (Uuid.v4 (drawn i)) u = (ready, answer) := hm
    have same := @sameFor_access _ _ s x i u (Uuid.v4 (drawn i)) .making (Access.next .making)
    rw [access, run] at made same
    cases answer with
    | error t => exact ⟨_, .single made, rfl, same, Function.update_self _ _ _⟩
    | ok =>
      obtain ⟨y, hy, pool, stage, same⟩ : ∃ y, Step s request drawn x y ∧
          y.pool = { x.pool with files := ready } ∧ y.stage i = .ready ∧ x.SameFor y i :=
        ⟨_, made, rfl, Function.update_self _ _ _, same⟩
      dsimp only
      have written : Step s request drawn y (y.access s (Uuid.v4 (drawn i)) i u .writing
          (Access.next .writing)) := .access .writing stage hd
      have same' := @sameFor_access _ _ s y i u (Uuid.v4 (drawn i)) .writing (Access.next .writing)
      cases hw : s.uploads.write s.processor.cwd ready (Uuid.v4 (drawn i)) u.suffix.text u.data with
      | mk staged answer =>
        have run : Access.writing.run s y.pool.files (Uuid.v4 (drawn i)) u =
            (staged, answer.map fun _ => ()) := by
          rw [pool, Access.run, hw]
        rw [access, run, pool] at written same'
        have both := (Relation.ReflTransGen.single hy).tail written
        cases answer with
        | error t =>
          exact ⟨_, both, rfl, same.trans same', Function.update_self _ _ _⟩
        | ok path =>
          rcases UploadStore.write_cases hw with ⟨hpath, -⟩ | ⟨_, _, herror, -⟩
          · have stored := Except.ok.inj hpath
            generalize s.uploads.place (Uuid.v4 (drawn i)) u.suffix.text = place at stored ⊢
            subst stored
            exact ⟨_, both, rfl, same.trans same', Function.update_self _ _ _, rfl, rfl⟩
          · cases herror

/-- What is done for one request alone is a run of steps. -/
theorem respond_steps (he : e.service = s) (hx : x.pool = e.pool) (hi : x.stage i = .arrived)
    (hd : drawn i = e.drawn) :
    ∃ y, Steps s request drawn x y ∧ y.pool = (e.respond (request i)).1.pool ∧
      y.Ends i (e.respond (request i)).2 ∧ x.SameFor y i := by
  have service := (Exchange.received_service e (request i)).trans he
  have pool : (e.received (request i)).pool =
      { x.pool with
        files := (s.receive x.pool.files (Uuid.v4 (drawn i)) (request i)).1
        logs := x.pool.logs ++ (s.receive x.pool.files (Uuid.v4 (drawn i)) (request i)).2.2 } := by
    rw [Exchange.received, he, hd, hx]
  rw [Exchange.respond_eq, he, ← hd, ← hx]
  rw [Service.receive] at pool ⊢
  cases hdemand : s.demand (request i) with
  | answered response =>
    rw [hdemand] at pool
    have answered : Step s request drawn x (x.move i (.answered response)) := .answer hi hdemand
    exact ⟨_, (Relation.ReflTransGen.single answered).tail (log_step pool), rfl,
      .inl (Function.update_self _ _ _), sameFor_move⟩
  | work q wanted =>
    rw [hdemand] at pool
    have noted : Step s request drawn x { x with pool := (e.received (request i)).pool } :=
      log_step pool
    have asked : Step s request drawn { x with pool := (e.received (request i)).pool }
        (({ x with pool := (e.received (request i)).pool } : Traffic ι).handIn i q wanted) :=
      .ask hi hdemand
    obtain ⟨y, steps, hpool, ends, same⟩ := @perform_steps _ _ s request drawn
      { x with pool := (e.received (request i)).pool } _ i q wanted service rfl
    exact ⟨y, ((Relation.ReflTransGen.single noted).tail asked).trans steps, hpool, ends, same⟩
  | upload u =>
    rw [hdemand] at pool
    obtain ⟨y, steps, hpool, same, hstage⟩ := @stage_steps _ _ s request drawn x i u hi hdemand
    simp only at pool ⊢
    generalize s.stage x.pool.files (Uuid.v4 (drawn i)) u = staged at pool hpool hstage ⊢
    have noted : Step s request drawn y { y with pool := (e.received (request i)).pool } :=
      log_step (pool.trans (by rw [hpool]))
    obtain ⟨files, received, logs⟩ := staged
    cases received with
    | answered response =>
      exact ⟨_, steps.tail noted, rfl, .inl hstage, same⟩
    | work q wanted =>
      obtain ⟨stored, rfl, rfl⟩ := hstage
      have handed : Step s request drawn { y with pool := (e.received (request i)).pool }
          (({ y with pool := (e.received (request i)).pool } : Traffic ι).handIn i
            (u.request (s.uploads.place (Uuid.v4 (drawn i)) u.suffix.text)) .image) :=
        .submit stored hdemand
      obtain ⟨z, more, hz, ends, same'⟩ := @perform_steps _ _ s request drawn
        { y with pool := (e.received (request i)).pool } _ i _ .image service rfl
      exact ⟨z, ((steps.tail noted).tail handed).trans more, hz, ends, same.trans same'⟩

/-! ## Progress -/

/-- What has happened to a request when it is in a stage. -/
def Reached (s : Service) (r : Request) (tickets : Nat) (ticket : Option Nat) : Stage → Prop
  | .ready | .stored => ∃ u, s.demand r = .upload u
  | .waiting _ => ∃ t < tickets, ticket = some t
  | .arrived | .judged .. | .answered _ | .away _ => True

theorem Reached.mono {r : Request} {m n : Nat} {ticket : Option Nat} {stage : Stage}
    (h : Reached s r m ticket stage) (hmn : m ≤ n) : Reached s r n ticket stage := by
  cases stage with
  | waiting =>
    obtain ⟨t, ht, hticket⟩ := h
    exact ⟨t, Nat.lt_of_lt_of_le ht hmn, hticket⟩
  | arrived | ready | stored | judged | answered | away => exact h

/-- The stages of all requests fit the requests and the pool. -/
structure Fits (s : Service) (request : ι → Request) (x : Traffic ι) : Prop where
  pool : x.pool.Sound s.processor
  size : 0 < x.pool.size
  stages : ∀ i, Reached s (request i) x.pool.tickets (x.ticket i) (x.stage i)

omit [DecidableEq ι] in
theorem fits_start (workers : Nat) (files : Files) : (start ι workers files).Fits s request where
  pool := Pool.sound_create _ _ _
  size := Nat.lt_of_lt_of_le Nat.one_pos (Nat.le_max_left _ _)
  stages _ := trivial

namespace Fits

variable (h : x.Fits s request)

include h

theorem move {stage : Stage} (hi : Reached s (request i) x.pool.tickets (x.ticket i) stage) :
    (x.move i stage).Fits s request where
  pool := h.pool
  size := h.size
  stages := (Function.forall_update_iff x.stage fun j =>
    Reached s (request j) x.pool.tickets (x.ticket j)).2 ⟨hi, fun j _ => h.stages j⟩

theorem access {id : String} {a : Access} {next : Except Trouble Unit → Stage}
    (hn : ∀ answer, Reached s (request i) x.pool.tickets (x.ticket i) (next answer)) :
    (x.access s id i u a next).Fits s request where
  pool := (Pool.Change.store _).sound h.pool
  size := h.size
  stages := (Function.forall_update_iff x.stage fun j =>
    Reached s (request j) x.pool.tickets (x.ticket j)).2 ⟨hn _, fun j _ => h.stages j⟩

theorem handIn : (x.handIn i q wanted).Fits s request where
  pool := h.pool.submit q
  size := h.size
  stages := by
    refine (Function.forall_update_iff x.stage fun j => Reached s (request j) (x.pool.tickets + 1)
      (Function.update x.ticket i (some x.pool.tickets) j)).2 ⟨?_, fun j e => ?_⟩
    · exact ⟨_, Nat.lt_succ_self _, Function.update_self _ _ _⟩
    · rw [Function.update_of_ne e]
      exact (h.stages j).mono (Nat.le_succ _)

end Fits

theorem Step.fits {y : Traffic ι} (hs : Step s request drawn x y) (h : x.Fits s request) :
    y.Fits s request := by
  cases hs with
  | answer => exact h.move trivial
  | access a _ hd =>
    apply h.access
    intro answer
    cases a <;> cases answer
    · trivial
    · exact ⟨_, hd⟩
    · trivial
    · exact ⟨_, hd⟩
  | ask => exact h.handIn
  | submit => exact h.handIn
  | work hs =>
    refine ⟨hs.sound h.pool, ?_, fun i => ?_⟩
    · rw [hs.size]
      exact h.size
    · rw [hs.tickets]
      exact h.stages i
  | deliver => exact h.move trivial
  | reply => exact h.move trivial
  | leave => exact h.move trivial
  | linger => exact h.access fun _ => trivial

theorem Steps.fits {y : Traffic ι} (hs : Steps s request drawn x y) (h : x.Fits s request) :
    y.Fits s request := by
  induction hs with
  | refl => exact h
  | tail _ step ih => exact step.fits ih

/-- There are steps after which the request is answered, none of them by another client. -/
def Answerable (s : Service) (request : ι → Request) (drawn : ι → Nat) (x : Traffic ι) (i : ι) :
    Prop :=
  ∃ y response, Steps s request drawn x y ∧ y.stage i = .answered response ∧ x.SameFor y i

theorem Answerable.head {y : Traffic ι} (hs : Step s request drawn x y) (same : x.SameFor y i)
    (h : y.Answerable s request drawn i) : x.Answerable s request drawn i := by
  obtain ⟨z, response, steps, answered, same'⟩ := h
  exact ⟨z, response, .head hs steps, answered, same.trans same'⟩

namespace Fits

variable (halts : Pool.Halting s.processor) (h : x.Fits s request)

include halts h

theorem answerable_of_waiting (hi : x.stage i = .waiting wanted) :
    x.Answerable s request drawn i := by
  have due := h.stages i
  rw [hi] at due
  obtain ⟨t, ht, hit⟩ := due
  obtain ⟨pool, worked, answer, hanswer⟩ := Pool.exists_answer halts h.pool h.size ht
  obtain ⟨y, replied, -, answered, same⟩ :=
    @reply_steps _ _ s request drawn { x with pool } i wanted t answer hi hit hanswer
  exact ⟨y, _, (work_steps worked).trans replied, answered, same⟩

theorem answerable_of_stored (hi : x.stage i = .stored) : x.Answerable s request drawn i := by
  have due := h.stages i
  rw [hi] at due
  obtain ⟨u, hu⟩ := due
  exact .head (.submit hi hu) sameFor_handIn
    (h.handIn.answerable_of_waiting halts stage_handIn_self)

theorem answerable_of_ready (hi : x.stage i = .ready) : x.Answerable s request drawn i := by
  have due := h.stages i
  rw [hi] at due
  obtain ⟨u, hu⟩ := due
  have written : Step s request drawn x _ := .access .writing hi hu
  have fits := written.fits h
  refine .head written sameFor_access ?_
  have stage := @stage_access_self _ _ s x i u (Uuid.v4 (drawn i)) .writing (Access.next .writing)
  generalize x.access s (Uuid.v4 (drawn i)) i u .writing (Access.next .writing) = y at fits stage ⊢
  generalize (Access.writing.run s x.pool.files (Uuid.v4 (drawn i)) u).2 = answer at stage
  cases answer with
  | error t => exact ⟨y, _, .refl, stage, .refl y⟩
  | ok => exact fits.answerable_of_stored halts stage

theorem answerable_of_arrived (hi : x.stage i = .arrived) : x.Answerable s request drawn i := by
  cases hd : s.demand (request i) with
  | answered response =>
    have answered : Step s request drawn x (x.move i (.answered response)) := .answer hi hd
    exact ⟨_, _, .single answered, stage_move_self, sameFor_move⟩
  | work q wanted =>
    exact .head (.ask hi hd) sameFor_handIn (h.handIn.answerable_of_waiting halts stage_handIn_self)
  | upload u =>
    have made : Step s request drawn x _ := .access .making hi hd
    have fits := made.fits h
    refine .head made sameFor_access ?_
    have stage := @stage_access_self _ _ s x i u (Uuid.v4 (drawn i)) .making (Access.next .making)
    generalize x.access s (Uuid.v4 (drawn i)) i u .making (Access.next .making) = y
      at fits stage ⊢
    generalize (Access.making.run s x.pool.files (Uuid.v4 (drawn i)) u).2 = answer at stage
    cases answer with
    | error t => exact ⟨y, _, .refl, stage, .refl y⟩
    | ok => exact fits.answerable_of_ready halts stage

/-- No request is stuck: as long as its client waits, it can be answered. -/
theorem answerable (hi : ∀ pending, x.stage i ≠ .away pending) :
    x.Answerable s request drawn i := by
  cases hstage : x.stage i with
  | arrived => exact h.answerable_of_arrived halts hstage
  | ready => exact h.answerable_of_ready halts hstage
  | stored => exact h.answerable_of_stored halts hstage
  | waiting wanted => exact h.answerable_of_waiting halts hstage
  | judged wanted answer =>
    have replied : Step s request drawn x
        (x.move i (.answered (s.reply x.pool.files wanted answer).1)) := .reply hstage
    exact ⟨_, _, .single replied, stage_move_self, sameFor_move⟩
  | answered response => exact ⟨x, response, .refl, hstage, .refl x⟩
  | away pending => exact absurd hstage (hi pending)

end Fits

end Traffic

end ImageGateway.Http
