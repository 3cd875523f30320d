import ImageGateway.Proofs.Pool.Steps
import ImageGateway.Proofs.Processing

/-!
What becomes of one ticket. It stands for the request that it was handed out for all the time
(`Changes.holds`): the program is called for it as that request says, and the answer under it is one
that this request can have. The files change only by what calls of the program did to them, and
each call has its effect once (`Steps.files`). No ticket is forgotten: if all runs end, each can
still get its answer (`exists_answer`).
-/

namespace ImageGateway.Pool

variable {p : Processor} {pool pool' : Pool} {t : Nat} {r : Request}

/-! ## Tickets -/

/-- An answer that the request can have: its run began with some files and ended with others. -/
def Answers (p : Processor) (r : Request) (answer : Except Failure String) : Prop :=
  ∃ before after, answer = verdict p after (p.attempt before r)

/-- The answer to a valid request never puts the blame on the request. -/
theorem valid_of_answers (launch : ∀ args fs e, (p.runner.run args fs).answer = .error e →
    e.isInvalidRequest = false) {a : Prepared} (ha : r.prepare = .ok a) {e : Failure}
    (h : Answers p r (.error e)) : e.isInvalidRequest = false := by
  obtain ⟨before, after, h⟩ := h
  rw [Processor.attempt_of_prepare ha, verdict, Processor.conclude] at h
  have judged := p.judged_judge a (p.runner.run a.args before).answer after
  dsimp only at h
  generalize (p.judge a _ after).1 = verdict at h judged
  generalize hrun : (p.runner.run a.args before).answer = answer at judged
  cases judged with
  | failed e' =>
    cases h
    exact launch _ _ _ hrun
  | unclean =>
    cases h
    rfl
  | produced => cases h
  | missing =>
    cases h
    rfl

/-- The ticket stands for the request, wherever in the pool it is. -/
structure Holds (p : Processor) (pool : Pool) (t : Nat) (r : Request) : Prop where
  queued : ∀ j ∈ pool.queued, j.ticket = t → j.request = r
  active : ∀ a ∈ pool.running ++ pool.ended, a.ticket = t → a.attempt = p.attempt a.before r
  finished : ∀ x ∈ pool.finished, x.1 = t → Answers p r x.2
  calls : ∀ c ∈ pool.calls, c.ticket = t → ∃ q, r.prepare = .ok q ∧ c.args = q.args

namespace Holds

theorem answers (h : pool.Holds p t r) {answer : Except Failure String}
    (ha : pool.answer? t = some answer) : Answers p r answer := by
  obtain ⟨l, k, hl, -⟩ := List.lookup_eq_some_iff.1 ha
  exact h.finished (t, answer) (by simp [hl]) rfl

/-- The next ticket stands for the request that is handed in. -/
theorem of_submit (hs : pool.Sound p) (r : Request) :
    (pool.submit r).Holds p pool.tickets r := by
  have unused {t : Nat} (ht : t ∈ pool.held) : t ≠ pool.tickets := Nat.ne_of_lt (hs.lt_tickets ht)
  refine ⟨?_, ?_, ?_, ?_⟩
  · intro j hj hjt
    rcases List.mem_append.1 hj with hj | hj
    · exact absurd hjt (unused (List.mem_append_left _ (List.mem_map_of_mem hj)))
    · rw [List.mem_singleton.1 hj]
  · intro a ha hat
    exact absurd hat (Nat.ne_of_lt (hs.lt_of_mem_active ha))
  · intro x hx hxt
    refine absurd hxt (unused (List.mem_append_right _ ?_))
    exact List.mem_append_right _ (List.mem_append_right _ (List.mem_map_of_mem hx))
  · intro c hc hct
    exact absurd hct (unused (List.mem_append_right _ (hs.calls c hc)))

/-- A ticket keeps its request when another request is handed in. -/
theorem submit (h : pool.Holds p t r) (ht : t < pool.tickets) (r' : Request) :
    (pool.submit r').Holds p t r := by
  refine ⟨?_, h.active, h.finished, h.calls⟩
  intro j hj hjt
  rcases List.mem_append.1 hj with hj | hj
  · exact h.queued j hj hjt
  · rw [List.mem_singleton.1 hj] at hjt
    exact absurd hjt (Nat.ne_of_gt ht)

theorem take {j : Job} {front rest : List Job} (h : pool.Holds p t r)
    (hq : pool.queued = front ++ j :: rest) :
    (pool.taking p j (front ++ rest)).Holds p t r := by
  have mem {k : Job} (hk : k = j ∨ k ∈ front ++ rest) : k ∈ pool.queued := by
    rw [hq]
    simp only [List.mem_append, List.mem_cons] at hk ⊢
    tauto
  have hj : j.ticket = t → j.request = r := h.queued j (mem (.inl rfl))
  refine ⟨?_, ?_, h.finished, ?_⟩
  · intro k hk
    exact h.queued k (mem (.inr hk))
  · intro a ha hat
    rcases mem_active_of_taking ha with rfl | ha
    · rw [← hj hat]
      rfl
    · exact h.active a ha hat
  · intro c hc hct
    rcases List.mem_append.1 hc with hc | hc
    · exact h.calls c hc hct
    · rw [takingCalls] at hc
      split at hc
      · cases hc
      · rename_i q hp
        cases List.mem_singleton.1 hc
        exact ⟨q, hj hct ▸ hp, rfl⟩

theorem land {a : Activity} (h : pool.Holds p t r) (ha : a ∈ pool.running) (time : Nat) :
    (pool.land a time).Holds p t r :=
  ⟨h.queued, fun b hb => h.active b (mem_active_of_land ha hb), h.finished, h.calls⟩

theorem settle {a : Activity} (h : pool.Holds p t r) (ha : a ∈ pool.ended) :
    (pool.settle p a).Holds p t r := by
  refine ⟨by simpa using h.queued, ?_, ?_, by simpa using h.calls⟩
  · intro b hb
    exact h.active b (mem_active_of_settle hb)
  · intro x hx hxt
    rw [settle_finished] at hx
    rcases List.mem_cons.1 hx with rfl | hx
    · exact ⟨a.before, pool.files, by rw [h.active a (List.mem_append_right _ ha) hxt]⟩
    · exact h.finished x hx hxt

end Holds

theorem Step.holds (h : Step p pool pool') (ht : pool.Holds p t r) : pool'.Holds p t r := by
  cases h with
  | take hq _ => exact ht.take hq
  | land time ha => exact ht.land ha time
  | settle ha => exact ht.settle ha
  | pass => exact ⟨ht.queued, ht.active, ht.finished, ht.calls⟩

theorem Steps.holds (h : Steps p pool pool') (ht : pool.Holds p t r) : pool'.Holds p t r := by
  induction h with
  | refl => exact ht
  | tail _ step ih => exact step.holds ih

theorem Step.tickets (h : Step p pool pool') : pool'.tickets = pool.tickets := by
  cases h with
  | take | land | pass => rfl
  | settle => exact settle_tickets

theorem Steps.tickets (h : Steps p pool pool') : pool'.tickets = pool.tickets := by
  induction h with
  | refl => rfl
  | tail _ step ih => rw [step.tickets, ih]

/-! ## The pool in use -/

/-- What may happen to a pool in use: a step of its own, a request that is handed in, or a change of
the files from outside. -/
inductive Change (p : Processor) : Pool → Pool → Prop where
  | step {pool pool' : Pool} : Step p pool pool' → Change p pool pool'
  | submit {pool : Pool} (r : Request) : Change p pool (pool.submit r)
  | store {pool : Pool} (files : Files) : Change p pool { pool with files }

/-- Any number of changes. -/
abbrev Changes (p : Processor) : Pool → Pool → Prop := Relation.ReflTransGen (Change p)

theorem Steps.changes (h : Steps p pool pool') : Changes p pool pool' :=
  h.lift id fun _ _ => .step

theorem Change.sound (h : Change p pool pool') (hs : pool.Sound p) : pool'.Sound p := by
  cases h with
  | step h => exact h.sound hs
  | submit r => exact hs.submit r
  | store => exact ⟨hs.tickets, hs.calls, hs.recorded, hs.endless⟩

theorem Changes.sound (h : Changes p pool pool') (hs : pool.Sound p) : pool'.Sound p := by
  induction h with
  | refl => exact hs
  | tail _ change ih => exact change.sound ih

theorem Change.tickets_le (h : Change p pool pool') : pool.tickets ≤ pool'.tickets := by
  cases h with
  | step h => exact Nat.le_of_eq h.tickets.symm
  | submit => exact Nat.le_succ _
  | store => exact Nat.le_refl _

theorem Change.holds (h : Change p pool pool') (hl : t < pool.tickets) (ht : pool.Holds p t r) :
    pool'.Holds p t r := by
  cases h with
  | step h => exact h.holds ht
  | submit r' => exact ht.submit hl r'
  | store => exact ⟨ht.queued, ht.active, ht.finished, ht.calls⟩

/-- A ticket that was handed out keeps its request for good. -/
theorem Changes.holds (h : Changes p pool pool') (hl : t < pool.tickets)
    (ht : pool.Holds p t r) : pool'.Holds p t r := by
  suffices hk : t < pool'.tickets ∧ pool'.Holds p t r from hk.2
  induction h with
  | refl => exact ⟨hl, ht⟩
  | tail _ change ih =>
    exact ⟨Nat.lt_of_lt_of_le ih.1 change.tickets_le, change.holds ih.1 ih.2⟩

/-! ## Files -/

/-- The tickets of the activities that have ended. -/
def past (pool : Pool) : List Nat := pool.ended.map (·.ticket) ++ pool.finished.map (·.1)

theorem past_subset_begun : pool.past ⊆ pool.begun := List.subset_append_right _ _

theorem Sound.notMem_past_of_queued (h : pool.Sound p) {j : Job} (hj : j ∈ pool.queued) :
    j.ticket ∉ pool.past := fun ht =>
  (List.nodup_append.1 h.nodup).2.2 _ (List.mem_map_of_mem hj) _ (past_subset_begun ht) rfl

theorem Sound.notMem_past_of_running (h : pool.Sound p) {a : Activity} (ha : a ∈ pool.running) :
    a.ticket ∉ pool.past := fun ht =>
  (List.nodup_append.1 h.nodup_begun).2.2 _ (List.mem_map_of_mem ha) _ ht rfl

theorem Sound.lt_of_mem_past (h : pool.Sound p) (ht : t ∈ pool.past) : t < pool.tickets :=
  h.lt_tickets (List.mem_append_right _ (past_subset_begun ht))

theorem mem_past_of_ended {a : Activity} (ha : a ∈ pool.ended) : a.ticket ∈ pool.past :=
  List.mem_append_left _ (List.mem_map_of_mem ha)

theorem mem_past_of_answer? {answer : Except Failure String} (h : pool.answer? t = some answer) :
    t ∈ pool.past ∧ (t, answer) ∈ pool.finished := by
  obtain ⟨l, k, hl, -⟩ := List.lookup_eq_some_iff.1 h
  have mem : (t, answer) ∈ pool.finished := by simp [hl]
  exact ⟨List.mem_append_right _ (List.mem_map_of_mem mem), mem⟩

theorem mem_past_land_iff {a : Activity} {time : Nat} :
    t ∈ (pool.land a time).past ↔ t ∈ pool.past ∨ t = a.ticket := by
  simp only [past, Pool.land, List.map_append, List.map_cons, List.map_nil, List.mem_append,
    List.mem_singleton]
  tauto

theorem mem_past_settle_iff {a : Activity} (ha : a ∈ pool.ended) :
    t ∈ (pool.settle p a).past ↔ t ∈ pool.past := by
  simp only [past, settle_ended, settle_finished, List.map_cons, List.mem_append, List.mem_cons]
  constructor
  · rintro (ht | rfl | ht)
    · obtain ⟨b, hb, rfl⟩ := List.mem_map.1 ht
      exact .inl (List.mem_map_of_mem (List.mem_of_mem_filter hb))
    · exact .inl (List.mem_map_of_mem ha)
    · exact .inr ht
  · rintro (ht | ht)
    · by_cases hta : t = a.ticket
      · exact .inr (.inl hta)
      · obtain ⟨b, hb, rfl⟩ := List.mem_map.1 ht
        exact .inl (List.mem_map_of_mem (List.mem_filter.2 ⟨hb, by simpa using hta⟩))
    · exact .inr (.inr ht)

/-- The files after a call: what the program did to the files that it found is done to them. -/
def carried (p : Processor) (files : Files) (c : Call) : Files :=
  Files.carry c.before (p.runner.run c.args c.before).files files

theorem Step.calls_subset (h : Step p pool pool') : pool.calls ⊆ pool'.calls := by
  cases h with
  | take => exact List.subset_append_left _ _
  | land | pass => exact List.Subset.refl _
  | settle => rw [settle_calls]; exact List.Subset.refl _

theorem Step.past_subset (h : Step p pool pool') : pool.past ⊆ pool'.past := by
  cases h with
  | take | pass => exact List.Subset.refl _
  | land => exact fun t ht => mem_past_land_iff.2 (.inl ht)
  | settle ha => exact fun t ht => (mem_past_settle_iff ha).2 ht

/-- A step leaves the files as they are, or it ends an activity with one call of the program. -/
theorem Step.files (h : Step p pool pool') (hs : pool.Sound p) : pool'.files = pool.files ∨
    ∃ c ∈ pool'.calls, c.ticket ∉ pool.past ∧ c.ticket ∈ pool'.past ∧
      pool'.files = carried p pool.files c := by
  cases h with
  | take | pass => exact .inl rfl
  | settle => exact .inl settle_files
  | @land a time ha =>
    cases hb : a.attempt with
    | error e => exact .inl (by simp [Pool.land, Activity.carried, hb])
    | ok b =>
      obtain ⟨hrun, hcall⟩ := hs.recorded a (List.mem_append_left _ ha) b hb
      refine .inr ⟨_, hcall, ?_, ?_, ?_⟩
      · exact hs.notMem_past_of_running ha
      · exact mem_past_land_iff.2 (.inr rfl)
      · simp [Pool.land, Activity.carried, hb, carried, hrun]

/-- In any number of steps the files change by calls that had not ended before, each of them
carried over once. -/
theorem Steps.files (h : Steps p pool pool') (hs : pool.Sound p) :
    ∃ cs : List Call, (cs.map (·.ticket)).Nodup ∧
      (∀ c ∈ cs, c ∈ pool'.calls ∧ c.ticket ∉ pool.past ∧ c.ticket ∈ pool'.past) ∧
      pool'.files = cs.foldl (carried p) pool.files := by
  have start : pool.past ⊆ pool.past := List.Subset.refl _
  suffices hk : pool.past ⊆ pool'.past ∧ ∃ cs : List Call, (cs.map (·.ticket)).Nodup ∧
      (∀ c ∈ cs, c ∈ pool'.calls ∧ c.ticket ∉ pool.past ∧ c.ticket ∈ pool'.past) ∧
      pool'.files = cs.foldl (carried p) pool.files from hk.2
  induction h with
  | refl => exact ⟨start, [], by simp⟩
  | @tail b c hsteps step ih =>
    obtain ⟨hpast, cs, hnd, hcs, hfs⟩ := ih
    have keep : ∀ d ∈ cs, d ∈ c.calls ∧ d.ticket ∉ pool.past ∧ d.ticket ∈ c.past := fun d hd =>
      ⟨step.calls_subset (hcs d hd).1, (hcs d hd).2.1, step.past_subset (hcs d hd).2.2⟩
    refine ⟨List.Subset.trans hpast step.past_subset, ?_⟩
    rcases step.files (Steps.sound hsteps hs) with hsame | ⟨d, hd, hnew, hend, hc⟩
    · exact ⟨cs, hnd, keep, hsame.trans hfs⟩
    · refine ⟨cs ++ [d], ?_, ?_, ?_⟩
      · rw [List.map_append, List.map_singleton, List.nodup_append]
        refine ⟨hnd, List.nodup_singleton _, ?_⟩
        rintro _ hx _ hy rfl
        obtain ⟨e, he, hte⟩ := List.mem_map.1 hx
        rw [List.mem_singleton.1 hy] at hte
        exact hnew (hte ▸ (hcs e he).2.2)
      · intro e he
        rcases List.mem_append.1 he with he | he
        · exact keep e he
        · cases List.mem_singleton.1 he
          exact ⟨hd, fun h => hnew (hpast h), hend⟩
      · rw [List.foldl_append, ← hfs, hc]
        rfl

/-! ## Progress -/

theorem Step.size (h : Step p pool pool') : pool'.size = pool.size := by
  cases h with
  | take | land | pass => rfl
  | settle =>
    rw [Pool.settle]
    split <;> rfl

theorem length_without {l : List Activity} {a : Activity} (ha : a ∈ l) :
    (without a.ticket l).length < l.length :=
  List.length_filter_lt_length_iff_exists.2 ⟨a, ha, by simp⟩

/-- No run of the program is endless. -/
def Halting (p : Processor) : Prop := ∀ args fs, (p.runner.run args fs).duration ≠ none

theorem Sound.ends_ne_none (hs : pool.Sound p) (halts : Halting p) {a : Activity}
    (ha : a ∈ pool.running) : a.ends ≠ none := by
  intro he
  obtain ⟨b, hb, hrun⟩ := hs.endless a ha he
  rw [(hs.recorded a (List.mem_append_left _ ha) b hb).1] at hrun
  exact halts _ _ hrun

/-- The workers can come to an end with what they have taken. -/
theorem exists_idle (halts : Halting p) (hs : pool.Sound p) : ∃ pool', Steps p pool pool' ∧
    pool'.running = [] ∧ pool'.ended = [] ∧ pool'.queued = pool.queued ∧
      pool'.size = pool.size := by
  -- An activity has two steps to go while it runs and one when it has ended.
  generalize hn : 2 * pool.running.length + pool.ended.length = n
  induction n using Nat.strongRecOn generalizing pool with
  | ind n ih =>
    cases hr : pool.running with
    | cons a running =>
      have ha : a ∈ pool.running := by simp [hr]
      have shorter := length_without ha
      obtain ⟨pool', steps, hrun, hend, hqueue, hsize⟩ := ih _ (by
        simp only [← hn, Pool.land, List.length_append, List.length_singleton]
        omega) (hs.land ha pool.now) rfl
      exact ⟨pool', .head (.land _ ha (hs.ends_ne_none halts ha)) steps, hrun, hend, hqueue, hsize⟩
    | nil =>
      cases he : pool.ended with
      | nil => exact ⟨pool, .refl, hr, he, rfl, rfl⟩
      | cons a ended =>
        have ha : a ∈ pool.ended := by simp [he]
        have shorter := length_without ha
        have step : Step p pool (pool.settle p a) := .settle ha
        obtain ⟨pool', steps, hrun, hend, hqueue, hsize⟩ := ih _ (by
          rw [← hn, settle_running, settle_ended]
          omega) (hs.settle ha) rfl
        rw [settle_queued] at hqueue
        exact ⟨pool', .head step steps, hrun, hend, hqueue, hsize.trans step.size⟩

theorem answer?_settle {a : Activity} :
    (pool.settle p a).answer? a.ticket = some (verdict p pool.files a.attempt) := by
  rw [answer?, settle_finished, List.lookup_cons_self]

theorem exists_answer?_of_mem {x : Nat × Except Failure String} (hx : x ∈ pool.finished) :
    ∃ answer, pool.answer? x.1 = some answer := by
  cases h : pool.answer? x.1 with
  | some answer => exact ⟨answer, rfl⟩
  | none => exact absurd rfl (bne_iff_ne.1 (List.lookup_eq_none_iff.1 h x hx))

/-- Every ticket that was handed out can get its answer. -/
theorem exists_answer (halts : Halting p) (hs : pool.Sound p) (size : 0 < pool.size)
    (ht : t < pool.tickets) :
    ∃ pool', Steps p pool pool' ∧ ∃ answer, pool'.answer? t = some answer := by
  obtain ⟨idle, steps, hrun, hend, -, hsize⟩ := exists_idle halts hs
  have sound := Steps.sound steps hs
  have held : t ∈ idle.held := by
    rw [sound.tickets.mem_iff, List.mem_range, Steps.tickets steps]
    exact ht
  simp only [Pool.held, begun, hrun, hend, List.map_nil, List.nil_append, List.mem_append,
    List.mem_map] at held
  rcases held with ⟨j, hj, rfl⟩ | ⟨x, hx, rfl⟩
  · obtain ⟨front, rest, hq⟩ := List.append_of_mem hj
    have take : Step p idle (idle.taking p j (front ++ rest)) :=
      .take hq (by simp [hrun, hend, hsize, size])
    have mem : idle.activity p j ∈ (idle.taking p j (front ++ rest)).running :=
      List.mem_append_right _ List.mem_cons_self
    have finish : Steps p (idle.taking p j (front ++ rest))
        (((idle.taking p j (front ++ rest)).land (idle.activity p j) idle.now).settle p
          (idle.activity p j)) :=
      finish_steps idle.now mem ((sound.take hq).ends_ne_none halts mem)
    exact ⟨_, (steps.tail take).trans finish, _, answer?_settle⟩
  · exact ⟨idle, steps, exists_answer?_of_mem hx⟩

end ImageGateway.Pool
