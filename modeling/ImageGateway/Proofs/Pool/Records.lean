import ImageGateway.Proofs.Metrics
import ImageGateway.Proofs.Pool.Tickets

/-!
What the pool keeps a record of. A valid request that has left the queue has its call on record
(`Steps.launched`). The log is added to only, and whatever becomes of the runs, nothing that the
workers write there is an error (`noted_workFor`): that a request has failed is told with the
response to it. To the metrics the workers add the outcomes of runs and nothing else
(`measured_workFor`).
-/

namespace ImageGateway

namespace Log

/-- None of the events is an error. -/
def Quiet (events : List Event) : Prop := ∀ event ∈ events, event.level ≠ .error

variable {a b events : List Event}

theorem quiet_nil : Quiet [] := nofun

theorem Quiet.append (ha : Quiet a) (hb : Quiet b) : Quiet (a ++ b) := by
  intro event h
  rcases List.mem_append.1 h with h | h
  · exact ha event h
  · exact hb event h

theorem quiet_flatMap {f : α → List Event} {l : List α} (h : ∀ x ∈ l, Quiet (f x)) :
    Quiet (l.flatMap f) := by
  intro event he
  obtain ⟨x, hx, he⟩ := List.mem_flatMap.1 he
  exact h x hx event he

theorem Quiet.filter_error (h : Quiet events) :
    events.filter (fun event => event.level = .error) = [] :=
  List.filter_eq_nil_iff.2 fun event he => by simpa using h event he

end Log

/-- A runner that starts a program: nothing but the start can fail, and to announce it is no
error. -/
structure Runner.Starts (runner : Runner) : Prop where
  launch : ∀ args fs e, (runner.run args fs).answer = .error e →
    ∃ program cause, e = .launch program cause
  quiet : ∀ args, Log.Quiet (runner.announce args)

/-- What such a runner fails with is not to be blamed on the request. -/
theorem Runner.Starts.isInvalidRequest_eq {runner : Runner} (starts : runner.Starts)
    (args : List String) (fs : Files) (e : Failure) (h : (runner.run args fs).answer = .error e) :
    e.isInvalidRequest = false := by
  obtain ⟨program, cause, rfl⟩ := starts.launch args fs e h
  rfl

/-- A failure that a run of the program ends with. -/
inductive Failure.OfRun : Failure → Prop where
  | launch (program : String) (cause : SystemFault) : OfRun (.launch program cause)
  | run (code : Option Int) (stderr : String) : OfRun (.run code stderr)
  | missingOutput (path : String) : OfRun (.missingOutput path)

theorem Failure.ofRun_iff {e : Failure} : e.OfRun ↔ e.isInvalidRequest = false := by
  constructor
  · rintro (_ | _ | _) <;> rfl
  · intro h
    cases e with
    | unsupportedFormat | unknownOption | missingConfigPath | missingFacialImageDir => cases h
    | launch | run | missingOutput => constructor

namespace Pool

variable {p : Processor} {pool pool' pool'' : Pool} {t : Nat} {r : Request} {a : Activity}

/-! ## Calls -/

/-- If the request of the ticket has left the queue and is valid, the program was called for it. -/
def Launched (pool : Pool) (t : Nat) (r : Request) : Prop :=
  t ∈ pool.begun → ∀ c, r.prepare = .ok c → ∃ before, ⟨t, c.args, before⟩ ∈ pool.calls

theorem launched_submit (hs : pool.Sound p) (r : Request) :
    (pool.submit r).Launched pool.tickets r := fun ht =>
  absurd (hs.lt_tickets (List.mem_append_right _ ht)) (Nat.lt_irrefl _)

theorem Step.launched (h : Step p pool pool') (hs : pool.Sound p) (ht : pool.Holds p t r)
    (hl : pool.Launched t r) : pool'.Launched t r := by
  cases h with
  | @take j front rest hq _ =>
    intro hbegun c hc
    rcases List.mem_cons.1 (begun_taking.mem_iff.1 hbegun) with rfl | hbegun
    · have queued : j ∈ pool.queued := by simp [hq]
      have call : ⟨j.ticket, c.args, pool.files⟩ ∈ pool.takingCalls j := by
        simp [takingCalls, ht.queued j queued rfl, hc]
      exact ⟨pool.files, List.mem_append_right _ call⟩
    · obtain ⟨before, call⟩ := hl hbegun c hc
      exact ⟨before, List.mem_append_left _ call⟩
  | land time ha =>
    intro hbegun
    exact hl ((begun_land hs.nodup_running ha).mem_iff.1 hbegun)
  | settle ha =>
    intro hbegun
    rw [settle_calls]
    exact hl ((begun_settle hs.nodup_ended ha).mem_iff.1 hbegun)
  | pass => exact hl

theorem Steps.launched (h : Steps p pool pool') (hs : pool.Sound p) (ht : pool.Holds p t r)
    (hl : pool.Launched t r) : pool'.Launched t r := by
  induction h with
  | refl => exact hl
  | tail steps step ih => exact step.launched (Steps.sound steps hs) (Steps.holds steps ht) ih

/-! ## The log -/

/-- The log was added to by events that are no errors. -/
def Noted (pool pool' : Pool) : Prop :=
  ∃ events, pool'.logs = pool.logs ++ events ∧ Log.Quiet events

theorem noted_refl (pool : Pool) : Noted pool pool := ⟨[], (List.append_nil _).symm, Log.quiet_nil⟩

theorem Noted.trans (h : Noted pool pool') (h' : Noted pool' pool'') : Noted pool pool'' := by
  obtain ⟨events, he, quiet⟩ := h
  obtain ⟨events', he', quiet'⟩ := h'
  exact ⟨events ++ events', by rw [he', he, List.append_assoc], quiet.append quiet'⟩

theorem quiet_judge (p : Processor) (c : Prepared) (answer : Except Failure RunOutput)
    (after : Files) : Log.Quiet (p.judge c answer after).2 := by
  cases answer with
  | error e => exact Log.quiet_nil
  | ok out =>
    have said : Log.Quiet (if out.stdout = "" then []
        else [⟨.debug, "kai_demo::kai::handler", "KAI-impl output",
          [("stdout", .text (Text.trimEnd out.stdout))]⟩]) := by
      split
      · exact Log.quiet_nil
      · simp [Log.Quiet]
    rw [Processor.judge]
    simp only
    split
    · split
      · exact said
      · exact said.append (by simp [Log.Quiet])
    · exact said.append (by simp [Log.Quiet])

theorem noted_settle (p : Processor) (pool : Pool) (a : Activity) :
    Noted pool (pool.settle p a) := by
  rw [settle]
  split
  · exact noted_refl pool
  · exact ⟨_, rfl, quiet_judge _ _ _ _⟩

theorem noted_begin (h : p.runner.Starts) (pool : Pool) : Noted pool (pool.begin p) := by
  refine ⟨_, rfl, Log.quiet_flatMap fun j _ => ?_⟩
  rw [takingLogs]
  split
  · exact Log.quiet_nil
  · rename_i c _
    have started : Log.Quiet [Processor.startEvent j.request c] := by
      simp [Log.Quiet, Processor.startEvent]
    exact started.append (h.quiet c.args)

theorem noted_finish (p : Processor) (pool : Pool) (a : Activity) (time : Nat) :
    Noted pool (pool.finish p a time) :=
  noted_settle p (pool.land a time) a

theorem noted_workFor (h : p.runner.Starts) (deadline : Nat) (done : Pool → Bool) (fuel : Nat)
    (pool : Pool) : Noted pool (workFor p deadline done fuel pool) :=
  workFor_of_pieces Noted Noted.trans (fun pool _ => noted_refl pool) (noted_begin h)
    (fun _ => noted_finish p _ _ _) deadline done fuel pool

/-! ## The metrics -/

/-- The metrics were added to by what runs of the program record. -/
def Measured (pool pool' : Pool) : Prop :=
  ∃ outcomes, pool'.metrics = pool.metrics ++ Outcome.tally outcomes

theorem measured_of_eq (h : pool'.metrics = pool.metrics) : Measured pool pool' :=
  ⟨[], by rw [h, Outcome.tally, List.flatMap_nil, List.append_nil]⟩

theorem Measured.trans (h : Measured pool pool') (h' : Measured pool' pool'') :
    Measured pool pool'' := by
  obtain ⟨outcomes, ho⟩ := h
  obtain ⟨outcomes', ho'⟩ := h'
  exact ⟨outcomes ++ outcomes', by rw [ho', ho, List.append_assoc, Outcome.tally_append]⟩

theorem measured_settle (p : Processor) (pool : Pool) (a : Activity) :
    Measured pool (pool.settle p a) := by
  rw [settle]
  split
  · exact measured_of_eq rfl
  · rename_i b _
    exact ⟨[Processor.outcome (p.judge b.prepared b.run.answer pool.files).1], by
      rw [Outcome.tally, List.flatMap_singleton]
      rfl⟩

theorem measured_workFor (p : Processor) (deadline : Nat) (done : Pool → Bool) (fuel : Nat)
    (pool : Pool) : Measured pool (workFor p deadline done fuel pool) :=
  workFor_of_pieces Measured Measured.trans (fun _ _ => measured_of_eq rfl)
    (fun _ => measured_of_eq rfl) (fun _ => measured_settle p (land _ _ _) _) deadline done fuel
    pool

end Pool

end ImageGateway
