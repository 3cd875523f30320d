import ImageGateway.Http.Exchange
import ImageGateway.Proofs.Http.Service
import ImageGateway.Proofs.Pool.Tickets

/-!
The service in use. Whatever is asked of it and however long it waits, its pool goes through the
changes that `Pool.Change` knows (`History.changes`), so that the ticket of a request keeps its
meaning. A request that is rejected leaves no trace: the program is never called for it, and the
files change only by the calls of earlier requests. A request that has an image stored or the
program called is not rejected. All that is asked of the program is that it fails to run only where
it cannot be started (`rejection_without_trace`).
-/

namespace ImageGateway.Http.Exchange

variable {x x' y : Exchange} {s : Service} {r : Request} {q : ImageGateway.Request}
  {wanted : Reply} {u : Submission} {t : Nat}

/-- What may come after a state: requests one after the other, and time that passes. -/
inductive History (x : Exchange) : Exchange → Prop where
  | refl : History x x
  | handle {y : Exchange} (r : Request) : History x y → History x (y.handle r).1
  | wait {y : Exchange} (milliseconds : Nat) : History x y → History x (y.wait milliseconds)

/-! ## Work -/

def worked (x : Exchange) (q : ImageGateway.Request) : Pool :=
  (x.pool.submit q).await x.service.processor x.pool.tickets (x.pool.now + x.service.patience)

/-- The reply is to the answer under the ticket of the request, if there is one in time. -/
theorem perform_eq (x : Exchange) (q : ImageGateway.Request) (wanted : Reply) :
    x.perform q wanted = match (x.worked q).answer? x.pool.tickets with
      | none => ({ x with pool := x.worked q }, timedOut)
      | some answer =>
        let (response, logs) := x.service.reply (x.worked q).files wanted answer
        ({ x with pool := { x.worked q with logs := (x.worked q).logs ++ logs } }, response) := rfl

theorem worked_steps (hx : x.service = s) (q : ImageGateway.Request) :
    Pool.Steps s.processor (x.pool.submit q) (x.worked q) := by
  rw [← hx]
  exact Pool.workFor_steps ..

theorem perform_steps (p : Processor) (x : Exchange) (q : ImageGateway.Request)
    (wanted : Reply) :
    Pool.Steps p (x.worked q) (x.perform q wanted).1.pool ∧
      (x.perform q wanted).1.pool.files = (x.worked q).files ∧
      (x.perform q wanted).1.service = x.service := by
  rw [perform_eq]
  split
  · exact ⟨.refl, rfl, rfl⟩
  · exact ⟨.single (.pass _ _ _), rfl, rfl⟩

/-! ## One request -/

/-- The state in which a request is received: an identifier is drawn, and an image may be
stored. -/
def received (x : Exchange) (r : Request) : Exchange :=
  let received := x.service.receive x.pool.files (Uuid.v4 x.drawn) r
  { x with
    pool := { x.pool with files := received.1, logs := x.pool.logs ++ received.2.2 }
    drawn := x.drawn + 1 }

theorem received_service (x : Exchange) (r : Request) : (x.received r).service = x.service := by
  rw [received]

theorem received_changes (p : Processor) (x : Exchange) (r : Request) :
    Pool.Changes p x.pool (x.received r).pool :=
  .tail (.single (.store (x.received r).pool.files)) (.step (.pass _ _ _))

theorem respond_eq (x : Exchange) (r : Request) : x.respond r =
    match (x.service.receive x.pool.files (Uuid.v4 x.drawn) r).2.1 with
    | .answered response => (x.received r, response)
    | .work q wanted => (x.received r).perform q wanted := rfl

theorem respond_of_answered {response : Response}
    (h : (x.service.receive x.pool.files (Uuid.v4 x.drawn) r).2.1 = .answered response) :
    x.respond r = (x.received r, response) := by
  rw [respond_eq, h]

theorem respond_of_work
    (h : (x.service.receive x.pool.files (Uuid.v4 x.drawn) r).2.1 = .work q wanted) :
    x.respond r = (x.received r).perform q wanted := by
  rw [respond_eq, h]

theorem handle_spec (p : Processor) (x : Exchange) (r : Request) :
    Pool.Steps p (x.respond r).1.pool (x.handle r).1.pool ∧
      (x.handle r).1.pool.files = (x.respond r).1.pool.files ∧
      (x.handle r).1.service = (x.respond r).1.service ∧
      (x.handle r).2.status = (x.respond r).2.status := by
  rw [handle]
  simp only
  generalize x.respond r = answered
  refine ⟨.single (.pass _ _ _), trivial, trivial, ?_⟩
  split <;> rfl

/-- Only to a request for the head alone the body is left out. -/
theorem handle_of_post (h : r.method = "POST") : (x.handle r).2 = (x.respond r).2 := by
  have other : r.method ≠ "HEAD" := by
    rw [h]
    decide
  exact if_neg other

theorem respond_changes (hx : x.service = s) (r : Request) :
    Pool.Changes s.processor x.pool (x.respond r).1.pool ∧ (x.respond r).1.service = s := by
  have start := received_changes s.processor x r
  have service := (received_service x r).trans hx
  rw [respond_eq]
  split
  · exact ⟨start, service⟩
  · rename_i q wanted _
    obtain ⟨steps, -, hs⟩ := perform_steps s.processor (x.received r) q wanted
    have work := (worked_steps service q).trans steps
    exact ⟨(start.tail (.submit q)).trans (Pool.Steps.changes work), hs.trans service⟩

theorem handle_changes (hx : x.service = s) (r : Request) :
    Pool.Changes s.processor x.pool (x.handle r).1.pool ∧ (x.handle r).1.service = s := by
  obtain ⟨changes, hs⟩ := respond_changes hx r
  obtain ⟨steps, -, hs', -⟩ := handle_spec s.processor x r
  exact ⟨changes.trans (Pool.Steps.changes steps), hs'.trans hs⟩

theorem handle_answered {response : Response}
    (h : x.service.receive x.pool.files (Uuid.v4 x.drawn) r =
      (x.pool.files, .answered response, [])) :
    (x.handle r).1.pool.tickets = x.pool.tickets ∧
      (x.handle r).1.pool.files = x.pool.files := by
  have hresp : x.respond r = (x.received r, response) := respond_of_answered (by rw [h])
  obtain ⟨steps, hfiles, -, -⟩ := handle_spec x.service.processor x r
  refine ⟨?_, ?_⟩
  · rw [steps.tickets, hresp, received]
  · rw [hfiles, hresp, received, h]

theorem handle_work (hx : x.service = s)
    (h : (x.service.receive x.pool.files (Uuid.v4 x.drawn) r).2.1 = .work q wanted) :
    Pool.Steps s.processor ((x.received r).pool.submit q) (x.handle r).1.pool ∧
      (x.handle r).2.status = ((x.received r).perform q wanted).2.status := by
  have hresp := respond_of_work h
  obtain ⟨steps, -, -, hstatus⟩ := handle_spec s.processor x r
  rw [hresp] at steps hstatus
  obtain ⟨work, -, -⟩ := perform_steps s.processor (x.received r) q wanted
  have start := worked_steps ((received_service x r).trans hx) q
  exact ⟨start.trans (work.trans steps), hstatus⟩

theorem wait_steps (hx : x.service = s) (milliseconds : Nat) :
    Pool.Steps s.processor x.pool (x.wait milliseconds).pool := by
  rw [← hx]
  exact Pool.workFor_steps ..

/-! ## Histories -/

theorem History.changes (h : History x y) (hx : x.service = s) :
    Pool.Changes s.processor x.pool y.pool ∧ y.service = s := by
  induction h with
  | refl => exact ⟨.refl, hx⟩
  | @handle y r _ ih =>
    obtain ⟨changes, hs⟩ := ih
    obtain ⟨more, hs'⟩ := handle_changes hs r
    exact ⟨changes.trans more, hs'⟩
  | @wait y milliseconds _ ih =>
    obtain ⟨changes, hs⟩ := ih
    exact ⟨changes.trans (Pool.Steps.changes (wait_steps hs milliseconds)), hs⟩

theorem History.sound {files : Files} (h : History (create s files) x) :
    x.pool.Sound s.processor ∧ x.service = s := by
  obtain ⟨changes, hs⟩ := h.changes rfl
  exact ⟨Pool.Changes.sound changes (Pool.sound_create _ _ _), hs⟩

/-! ## Rejections -/

/-- The tickets that were handed out between two states. -/
def Between (x x' : Exchange) (t : Nat) : Prop := x.pool.tickets ≤ t ∧ t < x'.pool.tickets

/-- The program is called for the work between two states, sooner or later. -/
def Called (x x' : Exchange) : Prop :=
  ∃ y, History x' y ∧ ∃ c ∈ y.pool.calls, Between x x' c.ticket

/-- Between two states the files change only by calls for earlier requests that were still to end,
each of them once. -/
def OnlyEarlierCalls (s : Service) (x x' : Exchange) : Prop :=
  ∃ cs : List Call, (cs.map (·.ticket)).Nodup ∧
    (∀ c ∈ cs, c ∈ x'.pool.calls ∧ c.ticket < x.pool.tickets ∧ c.ticket ∉ x.pool.past) ∧
    x'.pool.files = cs.foldl (Pool.carried s.processor) x.pool.files

/-- A status that blames the client, other than for having waited too long. -/
def Rejected (status : Nat) : Prop := 400 ≤ status ∧ status < 500 ∧ status ≠ 408

/-- The statuses of valid requests that were worked on. -/
def Worked (status : Nat) : Prop := status = 200 ∨ status = 408 ∨ status = 500 ∨ status = 502

theorem Worked.not_rejected {status : Nat} (h : Worked status) : ¬ Rejected status := by
  rw [Worked] at h
  rw [Rejected]
  omega

theorem not_called_of_tickets (h : x'.pool.tickets = x.pool.tickets) : ¬ Called x x' := by
  rintro ⟨-, -, c, -, hle, hlt⟩
  omega

theorem worked_of_prepare (starts : s.processor.runner.Starts) (hx : x.service = s)
    (sound : x.pool.Sound s.processor) {a : Prepared} (ha : q.prepare = .ok a) :
    Worked (x.perform q wanted).2.status := by
  have holds := Pool.Steps.holds (worked_steps hx q) (Pool.Holds.of_submit sound q)
  rw [perform_eq]
  split
  · exact .inr (.inl rfl)
  · rename_i answer hanswer
    rcases Service.status_reply x.service (x.worked q).files wanted answer with ⟨e, rfl, he⟩ | h | h
    · rw [Pool.valid_of_answers starts.isInvalidRequest_eq ha (holds.answers hanswer)] at he
      exact .inr (.inr (.inr he))
    · exact .inl h
    · exact .inr (.inr (.inl h))

theorem tickets_of_work {p : Processor}
    (steps : Pool.Steps p ((x.received r).pool.submit q) (x.handle r).1.pool) :
    (x.handle r).1.pool.tickets = x.pool.tickets + 1 := by
  rw [steps.tickets, Pool.submit, received]

section work

variable (sound : (x.received r).pool.Sound s.processor)
  (steps : Pool.Steps s.processor ((x.received r).pool.submit q) (x.handle r).1.pool)

include sound steps

/-- The program is called for a request only if the request is valid. -/
theorem prepare_of_called (hx : x.service = s) (h : Called x (x.handle r).1) :
    ∃ a, q.prepare = .ok a := by
  obtain ⟨y, hy, c, hc, hle, hlt⟩ := h
  have htickets := tickets_of_work steps
  have holds : (x.handle r).1.pool.Holds s.processor x.pool.tickets q :=
    Pool.Steps.holds steps (Pool.Holds.of_submit sound q)
  obtain ⟨changes, -⟩ := hy.changes (handle_changes hx r).2
  have later := Pool.Changes.holds changes (by omega) holds
  obtain ⟨a, ha, -⟩ := later.calls c hc (by omega)
  exact ⟨a, ha⟩

/-- Without calls for a request only those for earlier ones can change the files. -/
theorem onlyEarlierCalls (hfiles : (x.received r).pool.files = x.pool.files)
    (hn : ¬ Called x (x.handle r).1) : OnlyEarlierCalls s x (x.handle r).1 := by
  have htickets := tickets_of_work steps
  have submitted := sound.submit q
  obtain ⟨cs, hnodup, hcs, hland⟩ := Pool.Steps.files steps submitted
  refine ⟨cs, hnodup, fun c hc => ?_, ?_⟩
  · obtain ⟨hcall, hnew, -⟩ := hcs c hc
    have hlt := (Pool.Steps.sound steps submitted).lt_of_mem_calls hcall
    refine ⟨hcall, ?_, hnew⟩
    -- A call with a ticket of this request would be one for this request.
    by_contra hge
    exact hn ⟨_, .refl, c, hcall, by omega, hlt⟩
  · rw [hland, ← hfiles]
    rfl

end work

/-- A rejected request leaves no trace: the program is not called for it, then or later, and the
files are as before but for what the calls of earlier requests do to them. A request that has an
image stored, or the program called for it, is answered with 200, 408, 500 or 502. -/
theorem rejection_without_trace (starts : s.processor.runner.Starts) {files : Files}
    (hx : History (create s files) x) (r : Request) :
    (Rejected (x.handle r).2.status →
      ¬ Called x (x.handle r).1 ∧ OnlyEarlierCalls s x (x.handle r).1) ∧
    ((∃ u, s.demand r = .upload u) ∨ Called x (x.handle r).1 → Worked (x.handle r).2.status) := by
  obtain ⟨sound, service⟩ := hx.sound
  have received : (x.received r).service = s := (received_service x r).trans service
  have soundReceived := Pool.Changes.sound (received_changes s.processor x r) sound
  cases hd : s.demand r with
  | answered response =>
    have hr : x.service.receive x.pool.files (Uuid.v4 x.drawn) r =
        (x.pool.files, .answered response, []) := by
      rw [service, Service.receive_of_answered _ _ hd]
    obtain ⟨htickets, hfiles⟩ := handle_answered hr
    refine ⟨fun _ => ⟨not_called_of_tickets htickets, [], List.nodup_nil, by simp, hfiles⟩, ?_⟩
    rintro (⟨u, hu⟩ | hcalled)
    · cases hu
    · exact absurd hcalled (not_called_of_tickets htickets)
  | work q wanted =>
    have hr : x.service.receive x.pool.files (Uuid.v4 x.drawn) r =
        (x.pool.files, .work q wanted, []) := by
      rw [service, Service.receive_of_work _ _ hd]
    have hfiles : (x.received r).pool.files = x.pool.files := by rw [Exchange.received, hr]
    obtain ⟨steps, hstatus⟩ := handle_work service (congrArg (·.2.1) hr)
    have worked (a : Prepared) (ha : q.prepare = .ok a) : Worked (x.handle r).2.status := by
      rw [hstatus]
      exact worked_of_prepare starts received soundReceived ha
    refine ⟨fun hrejected => ?_, ?_⟩
    · have hn : ¬ Called x (x.handle r).1 := fun hcalled =>
        have ⟨a, ha⟩ := prepare_of_called soundReceived steps service hcalled
        (worked a ha).not_rejected hrejected
      exact ⟨hn, onlyEarlierCalls soundReceived steps hfiles hn⟩
    · rintro (⟨u, hu⟩ | hcalled)
      · cases hu
      · obtain ⟨a, ha⟩ := prepare_of_called soundReceived steps service hcalled
        exact worked a ha
  | upload u =>
    have worked : Worked (x.handle r).2.status := by
      obtain ⟨tokens, ht⟩ := Service.valid_of_demand hd
      have hr : x.service.receive x.pool.files (Uuid.v4 x.drawn) r =
          s.stage x.pool.files (Uuid.v4 x.drawn) u := by
        rw [service, Service.receive_of_upload _ _ hd]
      rcases s.stage_cases x.pool.files (Uuid.v4 x.drawn) u with
        ⟨fs, logs, hstage⟩ | ⟨fs, response, logs, hstage, h500⟩
      · obtain ⟨steps, hstatus⟩ := handle_work service (congrArg (·.2.1) (hr.trans hstage))
        rw [hstatus]
        exact worked_of_prepare starts received soundReceived (Submission.prepare_place ht _ _)
      · have hresp : x.respond r = (x.received r, response) := by
          rw [respond_eq, hr, hstage]
        rw [(handle_spec s.processor x r).2.2.2, hresp, h500]
        exact .inr (.inr (.inl rfl))
    exact ⟨fun hrejected => absurd hrejected worked.not_rejected, fun _ => worked⟩

/-! ### A rejection -/

/-- A configuration that leaves out what may be left out. -/
def plainConfig : Config :=
  { app := { listen := "", metricsListen := "", maxBodySizeMb := 1, workerThreads := 1 }
    uploadsPath := "uploads" }

/-- The service that is set up from it in the root directory. -/
def plainService : Service :=
  { processor := ⟨(Program.mk "/build" "/build/KAI-impl").runner, []⟩
    uploads := ⟨"/uploads"⟩
    bodyLimit := 1000000
    workers := 1
    patience := 300000
    openApi := false }

theorem setUp_plainConfig (runner : Program → Runner) :
    (Service.setUp runner [] "/" plainConfig).1 = .ok
      { plainService with processor := ⟨runner ⟨"/build", "/build/KAI-impl"⟩, []⟩ } := by
  have program : Program.create "/" plainConfig.program.workingDir plainConfig.program.executable =
      .ok ⟨"/build", "/build/KAI-impl"⟩ := rfl
  have uploads : UploadStore.create "/" plainConfig.uploadsPath = .ok ⟨"/uploads"⟩ := rfl
  have limit : Service.limit? plainConfig.app.maxBodySizeMb = some 1000000 := by decide
  rw [Service.setUp_of_created program uploads, Service.assemble, limit]
  rfl

theorem create_plainConfig : (Service.create [] "/" plainConfig).1 = .ok plainService :=
  setUp_plainConfig Program.runner

/-- An upload without a boundary, to a service that has been waiting. -/
theorem rejection_of_no_boundary :
    (Service.create [] "/" plainConfig).1 = .ok plainService ∧
      let x := (create plainService .empty).wait 5
      let r : Request := ⟨"POST", "/api/v1/process-image", [], []⟩
      Rejected (x.handle r).2.status ∧ ¬ Called x (x.handle r).1 ∧
        OnlyEarlierCalls plainService x (x.handle r).1 := by
  have rejected : Rejected (((create plainService .empty).wait 5).handle
      ⟨"POST", "/api/v1/process-image", [], []⟩).2.status :=
    ⟨by decide, by decide, by decide⟩
  have starts := Service.starts_of_create create_plainConfig
  exact ⟨create_plainConfig, rejected,
    (rejection_without_trace starts (.wait 5 .refl) _).1 rejected⟩

end ImageGateway.Http.Exchange
