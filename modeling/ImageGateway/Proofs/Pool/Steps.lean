import ImageGateway.Pool
import Mathlib.Data.List.Nodup
import Mathlib.Data.List.Perm.Basic
import Mathlib.Logic.Relation

/-!
The pool of workers step by step. `Pool.Step` is one thing that may happen in a pool: a worker takes
a job, from anywhere in the queue, an activity ends, one that has ended is judged, or time passes.
Whatever the pool does is a run of such steps (`workFor_steps`). Every step keeps the pool sound
(`Step.sound`): each ticket is in the queue, with a worker or with the answers, and in one of these
only.
-/

namespace ImageGateway.Pool

variable {p : Processor} {pool pool' : Pool}

/-! ## Steps -/

/-- The pool when a worker has taken a job and left the rest in the queue. -/
def taking (p : Processor) (pool : Pool) (j : Job) (rest : List Job) : Pool :=
  { pool with
    queued := rest
    running := pool.running ++ [pool.activity p j]
    calls := pool.calls ++ pool.takingCalls j
    logs := pool.logs ++ takingLogs p j }

/-- One thing that happens in the pool. -/
inductive Step (p : Processor) : Pool → Pool → Prop where
  | take {pool : Pool} {j : Job} {front rest : List Job} :
    pool.queued = front ++ j :: rest → pool.running.length + pool.ended.length < pool.size →
    Step p pool (pool.taking p j (front ++ rest))
  /-- An activity ends, unless its run is endless. -/
  | land {pool : Pool} {a : Activity} (time : Nat) :
    a ∈ pool.running → a.ends ≠ none → Step p pool (pool.land a time)
  | settle {pool : Pool} {a : Activity} : a ∈ pool.ended → Step p pool (pool.settle p a)
  /-- Time passes, and something may be noted. -/
  | pass {pool : Pool} (now : Nat) (logs : List Log.Event) (metrics : Metrics) :
    Step p pool { pool with now, logs, metrics }

/-- Any number of steps. -/
abbrev Steps (p : Processor) : Pool → Pool → Prop := Relation.ReflTransGen (Step p)

theorem take_steps {jobs rest : List Job} (hq : pool.queued = jobs ++ rest)
    (hs : jobs.length ≤ pool.size - (pool.running.length + pool.ended.length)) :
    Steps p pool { pool with
      queued := rest
      running := pool.running ++ jobs.map (pool.activity p)
      calls := pool.calls ++ jobs.flatMap pool.takingCalls
      logs := pool.logs ++ jobs.flatMap (takingLogs p) } := by
  induction jobs generalizing pool with
  | nil =>
    rw [List.nil_append] at hq
    simp only [List.map_nil, List.flatMap_nil, List.append_nil, ← hq]
    exact .refl
  | cons j jobs ih =>
    rw [List.length_cons] at hs
    have first : Step p pool (pool.taking p j (jobs ++ rest)) := @Step.take _ _ _ [] _ hq (by omega)
    have others := @ih (pool.taking p j (jobs ++ rest)) rfl (by
      simp only [taking, List.length_append, List.length_singleton]
      omega)
    simp only [taking, List.append_assoc, List.singleton_append] at others
    exact .head first others

theorem begin_steps (p : Processor) (pool : Pool) : Steps p pool (pool.begin p) :=
  take_steps (List.take_append_drop _ _).symm (List.length_take_le _ _)

theorem finish_steps {a : Activity} (time : Nat) (ha : a ∈ pool.running) (he : a.ends ≠ none) :
    Steps p pool (pool.finish p a time) := by
  have ended : a ∈ (pool.land a time).ended := List.mem_append_right _ List.mem_cons_self
  exact .head (.land time ha he) (.single (.settle ended))

theorem mem_of_next? {time : Nat} {a : Activity} (h : pool.next? = some (time, a)) :
    a ∈ pool.running ∧ a.ends = some time := by
  have fold (l : List Activity) (x : Option (Nat × Activity))
      (h : l.foldl sooner x = some (time, a)) :
      x = some (time, a) ∨ a ∈ l ∧ a.ends = some time := by
    induction l generalizing x with
    | nil => exact .inl h
    | cons b l ih =>
      rcases ih _ h with h | h
      · cases hb : b.ends with
        | none => exact .inl (by simpa [sooner, hb] using h)
        | some t =>
          cases x with
          | none =>
            simp only [sooner, hb, Option.some.injEq, Prod.mk.injEq] at h
            obtain ⟨rfl, rfl⟩ := h
            exact .inr ⟨List.mem_cons_self, hb⟩
          | some x =>
            simp only [sooner, hb] at h
            split at h
            · cases h
              exact .inr ⟨List.mem_cons_self, hb⟩
            · exact .inl h
      · exact .inr ⟨List.mem_cons_of_mem _ h.1, h.2⟩
  rcases fold _ _ h with h | h
  · cases h
  · exact h

/-- What holds between the two ends of each piece of work, and from one piece to the next, holds
between the two ends of all the work. -/
theorem workFor_of_pieces (R : Pool → Pool → Prop)
    (trans : ∀ {a b c : Pool}, R a b → R b c → R a c)
    (pass : ∀ (pool : Pool) (now : Nat), R pool { pool with now })
    (begins : ∀ pool, R pool (pool.begin p))
    (finishes : ∀ {pool : Pool} {time : Nat} {a : Activity}, pool.next? = some (time, a) →
      R pool (pool.finish p a time))
    (deadline : Nat) (done : Pool → Bool) (fuel : Nat) (pool : Pool) :
    R pool (workFor p deadline done fuel pool) := by
  induction fuel generalizing pool with
  | zero => exact pass pool pool.now
  | succ fuel ih =>
    have begun := begins pool
    rw [workFor]
    split
    · exact begun
    · split
      · rename_i hn
        split
        · exact trans begun (trans (finishes hn) (ih _))
        · exact trans begun (pass _ _)
      · exact trans begun (pass _ _)

theorem workFor_steps (p : Processor) (deadline : Nat) (done : Pool → Bool) (fuel : Nat)
    (pool : Pool) : Steps p pool (workFor p deadline done fuel pool) := by
  refine workFor_of_pieces (Steps p) Relation.ReflTransGen.trans
    (fun _ now => .single (.pass now _ _)) (begin_steps p) (fun hn => ?_) deadline done fuel pool
  obtain ⟨ha, he⟩ := mem_of_next? hn
  exact finish_steps _ ha (by simp [he])

/-! ## Judging -/

section settle

variable {a : Activity}

@[simp] theorem settle_queued : (pool.settle p a).queued = pool.queued := by
  rw [settle]
  split <;> rfl

@[simp] theorem settle_running : (pool.settle p a).running = pool.running := by
  rw [settle]
  split <;> rfl

@[simp] theorem settle_ended : (pool.settle p a).ended = without a.ticket pool.ended := by
  rw [settle]
  split <;> rfl

@[simp] theorem settle_tickets : (pool.settle p a).tickets = pool.tickets := by
  rw [settle]
  split <;> rfl

@[simp] theorem settle_calls : (pool.settle p a).calls = pool.calls := by
  rw [settle]
  split <;> rfl

@[simp] theorem settle_files : (pool.settle p a).files = pool.files := by
  rw [settle]
  split <;> rfl

/-- The answer that an attempt ends with, when these are the files. -/
def verdict (p : Processor) (files : Files) : Except Failure Attempt → Except Failure String
  | .error e => .error e
  | .ok b => (p.conclude b files).answer

@[simp] theorem settle_finished : (pool.settle p a).finished =
    (a.ticket, verdict p pool.files a.attempt) :: pool.finished := by
  cases ha : a.attempt <;> simp [settle, verdict, ha]

end settle

/-! ## Soundness -/

/-- The tickets of the requests that have left the queue. -/
def begun (pool : Pool) : List Nat :=
  pool.running.map (·.ticket) ++ (pool.ended.map (·.ticket) ++ pool.finished.map (·.1))

/-- All tickets. -/
def held (pool : Pool) : List Nat := pool.queued.map (·.ticket) ++ pool.begun

structure Sound (p : Processor) (pool : Pool) : Prop where
  /-- Every ticket that was handed out is somewhere in the pool, and that once. -/
  tickets : pool.held.Perm (List.range pool.tickets)
  /-- A call belongs to a request that has left the queue. -/
  calls : ∀ c ∈ pool.calls, c.ticket ∈ pool.begun
  /-- The run of an activity is that of a call. -/
  recorded : ∀ a ∈ pool.running ++ pool.ended, ∀ b, a.attempt = .ok b →
    b.run = p.runner.run b.prepared.args a.before ∧
      ⟨a.ticket, b.prepared.args, a.before⟩ ∈ pool.calls
  endless : ∀ a ∈ pool.running, a.ends = none → ∃ b, a.attempt = .ok b ∧ b.run.duration = none

namespace Sound

theorem nodup (h : pool.Sound p) : pool.held.Nodup := h.tickets.nodup_iff.2 List.nodup_range

theorem nodup_begun (h : pool.Sound p) : pool.begun.Nodup := (List.nodup_append.1 h.nodup).2.1

theorem nodup_running (h : pool.Sound p) : (pool.running.map (·.ticket)).Nodup :=
  (List.nodup_append.1 h.nodup_begun).1

theorem nodup_judged (h : pool.Sound p) :
    (pool.ended.map (·.ticket) ++ pool.finished.map (·.1)).Nodup :=
  (List.nodup_append.1 h.nodup_begun).2.1

theorem nodup_ended (h : pool.Sound p) : (pool.ended.map (·.ticket)).Nodup :=
  (List.nodup_append.1 h.nodup_judged).1

theorem lt_tickets (h : pool.Sound p) {t : Nat} (ht : t ∈ pool.held) : t < pool.tickets :=
  List.mem_range.1 (h.tickets.mem_iff.1 ht)

theorem lt_of_mem_active (h : pool.Sound p) {a : Activity} (ha : a ∈ pool.running ++ pool.ended) :
    a.ticket < pool.tickets := by
  refine h.lt_tickets (List.mem_append_right _ ?_)
  rw [begun, ← List.append_assoc, ← List.map_append]
  exact List.mem_append_left _ (List.mem_map_of_mem ha)

theorem lt_of_mem_calls (h : pool.Sound p) {c : Call} (hc : c ∈ pool.calls) :
    c.ticket < pool.tickets :=
  h.lt_tickets (List.mem_append_right _ (h.calls c hc))

end Sound

theorem sound_create (p : Processor) (workers : Nat) (files : Files) :
    (create workers files).Sound p where
  tickets := .refl _
  calls := by simp [create]
  recorded := by simp [create]
  endless := by simp [create]

theorem Sound.submit (h : pool.Sound p) (r : Request) : (pool.submit r).Sound p where
  tickets := by
    simp only [held, Pool.submit, List.map_append, List.map_cons, List.map_nil,
      List.append_assoc, List.range_succ, List.singleton_append]
    exact List.perm_middle.trans
      ((h.tickets.cons _).trans (List.perm_append_singleton _ _).symm)
  calls := h.calls
  recorded := h.recorded
  endless := h.endless

/-! ### The steps -/

/-- A worker that is busy has just begun, or it was busy before. -/
theorem mem_active_of_taking {j : Job} {rest : List Job} {a : Activity}
    (h : a ∈ (pool.taking p j rest).running ++ (pool.taking p j rest).ended) :
    a = pool.activity p j ∨ a ∈ pool.running ++ pool.ended := by
  simp only [taking, List.mem_append, List.mem_singleton] at h
  rcases h with (h | h) | h
  · exact .inr (List.mem_append_left _ h)
  · exact .inl h
  · exact .inr (List.mem_append_right _ h)

/-- When a run ends, no worker becomes busy. -/
theorem mem_active_of_land {a b : Activity} {time : Nat} (ha : a ∈ pool.running)
    (h : b ∈ (pool.land a time).running ++ (pool.land a time).ended) :
    b ∈ pool.running ++ pool.ended := by
  simp only [land, without, List.mem_append, List.mem_singleton] at h
  rcases h with h | h | rfl
  · exact List.mem_append_left _ (List.mem_of_mem_filter h)
  · exact List.mem_append_right _ h
  · exact List.mem_append_left _ ha

theorem mem_active_of_settle {a b : Activity}
    (h : b ∈ (pool.settle p a).running ++ (pool.settle p a).ended) :
    b ∈ pool.running ++ pool.ended := by
  rw [settle_running, settle_ended] at h
  exact (List.filter_sublist.append_left _).subset h

theorem begun_taking {j : Job} {rest : List Job} :
    (pool.taking p j rest).begun.Perm (j.ticket :: pool.begun) := by
  simp only [begun, taking, List.map_append, List.map_cons, List.map_nil, List.append_assoc,
    List.singleton_append]
  exact List.perm_middle

/-- An activity is the only one with its ticket. -/
theorem without_perm {l : List Activity} {a : Activity} (h : (l.map (·.ticket)).Nodup)
    (ha : a ∈ l) :
    (l.map (·.ticket)).Perm (a.ticket :: (without a.ticket l).map (·.ticket)) := by
  obtain ⟨l, r, rfl⟩ := List.append_of_mem ha
  simp only [List.map_append, List.map_cons] at h ⊢
  have other := (List.nodup_cons.1 (List.nodup_middle.1 h)).1
  have keep (m : List Activity) (hm : a.ticket ∉ m.map (·.ticket)) :
      m.filter (·.ticket ≠ a.ticket) = m :=
    List.filter_eq_self.2 fun x hx =>
      decide_eq_true fun e => hm (e ▸ List.mem_map_of_mem hx)
  rw [without, List.filter_append, List.filter_cons, if_neg (by simp),
    keep l fun hm => other (List.mem_append_left _ hm),
    keep r fun hm => other (List.mem_append_right _ hm), List.map_append]
  exact List.perm_middle

theorem begun_land {a : Activity} {time : Nat} (h : (pool.running.map (·.ticket)).Nodup)
    (ha : a ∈ pool.running) : (pool.land a time).begun.Perm pool.begun := by
  simp only [begun, land, List.map_append, List.map_cons, List.map_nil, List.append_assoc,
    List.singleton_append]
  rw [← List.append_assoc]
  apply List.perm_middle.trans
  rw [List.append_assoc, ← List.cons_append]
  exact (without_perm h ha).symm.append_right _

theorem begun_settle {a : Activity} (h : (pool.ended.map (·.ticket)).Nodup)
    (ha : a ∈ pool.ended) : (pool.settle p a).begun.Perm pool.begun := by
  rw [begun, settle_running, settle_ended, settle_finished, List.map_cons]
  refine (List.perm_append_left_iff _).2 (List.perm_middle.trans ?_)
  exact (without_perm h ha).symm.append_right _

theorem Sound.take {j : Job} {front rest : List Job} (h : pool.Sound p)
    (hq : pool.queued = front ++ j :: rest) : (pool.taking p j (front ++ rest)).Sound p where
  tickets := by
    have ht := h.tickets
    rw [held, hq, List.map_append, List.map_cons] at ht
    rw [held, taking, List.map_append]
    refine ((begun_taking.append_left _).trans List.perm_middle).trans (.trans ?_ ht)
    exact (List.perm_middle.symm).append_right _
  calls := by
    intro c hc
    rw [begun_taking.mem_iff]
    rcases List.mem_append.1 hc with hc | hc
    · exact List.mem_cons_of_mem _ (h.calls c hc)
    · rw [takingCalls] at hc
      split at hc
      · cases hc
      · rw [List.mem_singleton.1 hc]
        exact List.mem_cons_self
  recorded := by
    intro a ha b hb
    rcases mem_active_of_taking ha with rfl | ha
    · simp only [activity, Processor.attempt] at hb ⊢
      cases hr : j.request.prepare with
      | error e => simp [hr, Except.map] at hb
      | ok c =>
        simp only [hr, Except.map, Except.ok.injEq] at hb
        subst hb
        exact ⟨rfl, List.mem_append_right _ (by simp [takingCalls, hr])⟩
    · exact (h.recorded a ha b hb).imp id (List.mem_append_left _)
  endless := by
    intro a ha he
    rcases List.mem_append.1 ha with ha | ha
    · exact h.endless a ha he
    · cases List.mem_singleton.1 ha
      simp only [activity] at he ⊢
      cases hb : p.attempt pool.files j.request with
      | error e => simp [hb] at he
      | ok b => exact ⟨b, rfl, by simpa [hb] using he⟩

theorem Sound.land {a : Activity} (h : pool.Sound p) (ha : a ∈ pool.running) (time : Nat) :
    (pool.land a time).Sound p where
  tickets := ((begun_land h.nodup_running ha).append_left _).trans h.tickets
  calls := by
    intro c hc
    rw [(begun_land h.nodup_running ha).mem_iff]
    exact h.calls c hc
  recorded b hb := h.recorded b (mem_active_of_land ha hb)
  endless b hb := h.endless b (List.mem_of_mem_filter hb)

theorem Sound.settle {a : Activity} (h : pool.Sound p) (ha : a ∈ pool.ended) :
    (pool.settle p a).Sound p where
  tickets := by
    rw [held, settle_queued, settle_tickets]
    exact ((begun_settle h.nodup_ended ha).append_left _).trans h.tickets
  calls := by
    intro c hc
    rw [settle_calls] at hc
    rw [(begun_settle h.nodup_ended ha).mem_iff]
    exact h.calls c hc
  recorded := by
    intro b hb
    rw [settle_calls]
    exact h.recorded b (mem_active_of_settle hb)
  endless b hb := by
    rw [settle_running] at hb
    exact h.endless b hb

theorem Step.sound (h : Step p pool pool') (hs : pool.Sound p) : pool'.Sound p := by
  cases h with
  | take hq _ => exact hs.take hq
  | land time ha => exact hs.land ha time
  | settle ha => exact hs.settle ha
  | pass => exact ⟨hs.tickets, hs.calls, hs.recorded, hs.endless⟩

theorem Steps.sound (h : Steps p pool pool') (hs : pool.Sound p) : pool'.Sound p := by
  induction h with
  | refl => exact hs
  | tail _ step ih => exact step.sound ih

end ImageGateway.Pool
