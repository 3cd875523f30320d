import ImageGateway.Proofs.Http.Desk
import ImageGateway.Proofs.Http.Endpoints

/-!
What a client at the desk can rely on, in whatever order things happen. A worker begins with every
request at most once, and has done so by the time there is nothing left to do, whether the client
still waits or not (`Counted`). An answer belongs to the request that it is kept for
(`Explained`), and a client gets one response at most, which is that answer unless it came too late
(`Heard`).
-/

namespace ImageGateway

namespace Http.Desk

variable {s : Service} {files : Files} {x y : Desk} {e : Event} {es fs : List Event} {t : Nat}
  {wanted : Reply} {answer : Except Failure String} {pool : Pool}

/-! ## What is to be seen of a ticket -/

namespace Event

def submitted? : Event → Option Nat
  | submit t _ _ => some t
  | _ => none

def started? : Event → Option Nat
  | start t _ => some t
  | _ => none

def finished? : Event → Option Nat
  | finish t _ _ => some t
  | _ => none

def delivered? : Event → Option Nat
  | deliver t _ => some t
  | _ => none

def responded? (e : Event) : Option Nat := e.response?.map (·.1)

end Event

/-- The tickets that one kind of event is about, in order. -/
def seen (kind : Event → Option Nat) (es : List Event) : List Nat := es.filterMap kind

theorem seen_snoc_none {kind : Event → Option Nat} (h : kind e = none) :
    seen kind (es ++ [e]) = seen kind es := by
  simp [seen, h]

theorem seen_snoc_some {kind : Event → Option Nat} (h : kind e = some t) :
    seen kind (es ++ [e]) = seen kind es ++ [t] := by
  simp [seen, h]

/-- The answer is the one that the worker came to who processed the request of this ticket: it
began with some files, and it judged the run by the files as they were at its end. -/
structure Result (s : Service) (es : List Event) (t : Nat) (r : ImageGateway.Request)
    (wanted : Reply) (answer : Except Failure String) (before after : Files) : Prop where
  submitted : .submit t r wanted ∈ es
  started : .start t before ∈ es
  finished : .finish t after answer ∈ es
  verdict : answer = Pool.verdict s.processor after (s.processor.attempt before r)

/-! ## The workers -/

theorem Step.changes (h : Step s x e y) : Pool.Changes s.processor x.pool y.pool := by
  cases h with
  | submit r => exact .single (.submit r)
  | start hq hs => exact .single (.step (.take hq hs))
  | exit time ha he => exact .single (.step (.land time ha he))
  | finish ha => exact .single (.step (.settle ha))
  | deliver | respond | timeOut => exact .refl
  | other files now logs metrics =>
    exact .tail (.single (.store files)) (.step (.pass now logs metrics))

/-- No more workers are busy than there are. -/
def Busy (s : Service) (pool : Pool) : Prop :=
  pool.size = max 1 s.workers ∧ pool.running.length + pool.ended.length ≤ pool.size

theorem Busy.step (h : Busy s x.pool) (hs : Step s x e y) : Busy s y.pool := by
  obtain ⟨size, busy⟩ := h
  cases hs with
  | submit | deliver | respond | timeOut | other => exact ⟨size, busy⟩
  | start hq free =>
    refine ⟨size, ?_⟩
    simp only [Pool.taking, List.length_append, List.length_singleton]
    omega
  | exit time ha =>
    refine ⟨size, ?_⟩
    have shorter := Pool.length_without ha
    simp only [Pool.land, List.length_append, List.length_singleton]
    omega
  | finish ha =>
    have shorter := Pool.length_without ha
    have same := (Pool.Step.settle (p := s.processor) ha).size
    refine ⟨same.trans size, ?_⟩
    rw [same, Pool.settle_running, Pool.settle_ended]
    omega

/-- Each ticket is seen as often as the pool knows of it. -/
structure Counted (es : List Event) (pool : Pool) : Prop where
  submitted : seen Event.submitted? es = List.range pool.tickets
  started : (seen Event.started? es).Perm pool.begun
  finished : (seen Event.finished? es).Perm (pool.finished.map (·.1))
  /-- The program is called as a worker begins, if it is called at all. -/
  called : (pool.calls.map (·.ticket)).Sublist (seen Event.started? es)

theorem Counted.step (h : Counted es x.pool) (sound : x.pool.Sound s.processor)
    (hs : Step s x e y) : Counted (es ++ [e]) y.pool := by
  obtain ⟨submitted, started, finished, called⟩ := h
  cases hs with
  | submit r wanted =>
    refine ⟨?_, ?_, ?_, ?_⟩
    · rw [seen_snoc_some rfl, submitted]
      exact List.range_succ.symm
    · rwa [seen_snoc_none rfl]
    · rwa [seen_snoc_none rfl]
    · rwa [seen_snoc_none rfl]
  | @start j front rest hq free =>
    refine ⟨?_, ?_, ?_, ?_⟩
    · rwa [seen_snoc_none rfl]
    · rw [seen_snoc_some rfl]
      exact (List.perm_append_singleton _ _).trans
        ((started.cons j.ticket).trans Pool.begun_taking.symm)
    · rwa [seen_snoc_none rfl]
    · rw [seen_snoc_some rfl, Pool.taking, List.map_append]
      refine called.append ?_
      rw [Pool.takingCalls]
      split
      · exact List.nil_sublist _
      · exact .refl _
  | exit time ha =>
    refine ⟨?_, ?_, ?_, ?_⟩
    · rwa [seen_snoc_none rfl]
    · rw [seen_snoc_none rfl]
      exact started.trans (Pool.begun_land sound.nodup_running ha).symm
    · rwa [seen_snoc_none rfl]
    · rwa [seen_snoc_none rfl]
  | @finish a ha =>
    refine ⟨?_, ?_, ?_, ?_⟩
    · rwa [seen_snoc_none rfl, Pool.settle_tickets]
    · rw [seen_snoc_none rfl]
      exact started.trans (Pool.begun_settle sound.nodup_ended ha).symm
    · rw [seen_snoc_some rfl, Pool.settle_finished]
      exact (List.perm_append_singleton _ _).trans (finished.cons a.ticket)
    · rwa [seen_snoc_none rfl, Pool.settle_calls]
  | deliver | respond | timeOut | other =>
    refine ⟨?_, ?_, ?_, ?_⟩ <;> rwa [seen_snoc_none rfl]

/-- Two events of one kind that are about the same ticket are the same, if each ticket is seen
once. -/
theorem eq_of_nodup_seen {kind : Event → Option Nat} {f : Event} (h : (seen kind es).Nodup)
    (he : e ∈ es) (hf : f ∈ es) (hke : kind e = some t) (hkf : kind f = some t) : e = f := by
  obtain ⟨front, back, rfl⟩ := List.append_of_mem he
  rw [seen, List.filterMap_append, List.filterMap_cons_some hke] at h
  have alone := (List.nodup_cons.1 (List.nodup_middle.1 h)).1
  rw [← List.filterMap_append] at alone
  have elsewhere : f ∉ front ++ back := fun hf => alone (List.mem_filterMap.2 ⟨f, hf, hkf⟩)
  simp only [List.mem_append, List.mem_cons] at hf elsewhere
  tauto

theorem Counted.submit_inj {r r' : ImageGateway.Request} {wanted' : Reply} (h : Counted es pool)
    (hs : .submit t r wanted ∈ es) (hs' : .submit t r' wanted' ∈ es) :
    r = r' ∧ wanted = wanted' := by
  have nodup : (seen Event.submitted? es).Nodup := h.submitted ▸ List.nodup_range
  simpa using eq_of_nodup_seen nodup hs hs' rfl rfl

/-- Whatever the pool has is explained by what was seen. -/
structure Explained (s : Service) (es : List Event) (pool : Pool) : Prop where
  queued : ∀ j ∈ pool.queued, ∃ wanted, .submit j.ticket j.request wanted ∈ es
  active : ∀ a ∈ pool.running ++ pool.ended, ∃ r wanted, .submit a.ticket r wanted ∈ es ∧
    .start a.ticket a.before ∈ es ∧ a.attempt = s.processor.attempt a.before r
  finished : ∀ f ∈ pool.finished, ∃ r wanted before after,
    Result s es f.1 r wanted f.2 before after

theorem Result.mono {r : ImageGateway.Request} {before after : Files}
    (h : Result s es t r wanted answer before after) (sub : es ⊆ fs) :
    Result s fs t r wanted answer before after :=
  ⟨sub h.submitted, sub h.started, sub h.finished, h.verdict⟩

theorem Explained.mono (h : Explained s es pool) (sub : es ⊆ fs) : Explained s fs pool where
  queued j hj := (h.queued j hj).imp fun _ => @sub _
  active a ha := by
    obtain ⟨r, wanted, submitted, started, attempt⟩ := h.active a ha
    exact ⟨r, wanted, sub submitted, sub started, attempt⟩
  finished f hf := by
    obtain ⟨r, wanted, before, after, result⟩ := h.finished f hf
    exact ⟨r, wanted, before, after, result.mono sub⟩

theorem Explained.step (h : Explained s es x.pool) (hs : Step s x e y) :
    Explained s (es ++ [e]) y.pool := by
  have last : e ∈ es ++ [e] := List.mem_append_right _ List.mem_cons_self
  have earlier := h.mono (List.subset_append_left es [e])
  obtain ⟨queued, active, finished⟩ := earlier
  cases hs with
  | submit r wanted =>
    refine ⟨fun j hj => ?_, active, finished⟩
    rcases List.mem_append.1 hj with hj | hj
    · exact queued j hj
    · rw [List.mem_singleton.1 hj]
      exact ⟨wanted, last⟩
  | @start j front rest hq free =>
    refine ⟨fun k hk => queued k ?_, fun a ha => ?_, finished⟩
    · rw [hq]
      exact (List.sublist_append_right [j] rest).append_left front |>.subset hk
    · rcases Pool.mem_active_of_taking ha with rfl | ha
      · obtain ⟨wanted, submitted⟩ := queued j (by simp [hq])
        exact ⟨j.request, wanted, submitted, last, rfl⟩
      · exact active a ha
  | exit time ha =>
    exact ⟨queued, fun b hb => active b (Pool.mem_active_of_land ha hb), finished⟩
  | @finish a ha =>
    refine ⟨by simpa using queued, fun b hb => active b (Pool.mem_active_of_settle hb),
      fun f hf => ?_⟩
    rw [Pool.settle_finished] at hf
    rcases List.mem_cons.1 hf with rfl | hf
    · obtain ⟨r, wanted, submitted, started, attempt⟩ := active a (List.mem_append_right _ ha)
      exact ⟨r, wanted, a.before, x.pool.files, submitted, started, last, by rw [attempt]⟩
    · exact finished f hf
  | deliver | respond | timeOut | other => exact ⟨queued, active, finished⟩

/-! ## The clients -/

/-- How many answers have come through a channel. -/
def Channel.delivered : Option Channel → Nat
  | none | some (.waiting _) => 0
  | some (.received _ _) | some .closed => 1

/-- How many responses its client has. -/
def Channel.responded : Option Channel → Nat
  | some .closed => 1
  | _ => 0

theorem Channel.delivered_le : (c : Option Channel) → delivered c ≤ 1
  | none | some (.waiting _) => Nat.zero_le _
  | some (.received _ _) | some .closed => Nat.le_refl _

theorem Channel.responded_le : (c : Option Channel) → responded c ≤ 1
  | none | some (.waiting _) | some (.received _ _) => Nat.zero_le _
  | some .closed => Nat.le_refl _

/-- What the state of a channel says about its ticket. -/
def Known (s : Service) (es : List Event) (t : Nat) : Option Channel → Prop
  | some (.waiting wanted) => ∃ r, .submit t r wanted ∈ es
  | some (.received wanted answer) => ∃ r before after, Result s es t r wanted answer before after
  | none | some .closed => True

/-- The channel of a ticket is in this state, and that fits with what was seen. -/
structure Hears (s : Service) (es : List Event) (t : Nat) (c : Option Channel) : Prop where
  known : Known s es t c
  delivered : (seen Event.delivered? es).count t ≤ Channel.delivered c
  responded : (seen Event.responded? es).count t = Channel.responded c

theorem Known.mono {c : Option Channel} (h : Known s es t c) (sub : es ⊆ fs) :
    Known s fs t c := by
  match c, h with
  | some (.waiting _), ⟨r, submitted⟩ => exact ⟨r, sub submitted⟩
  | some (.received _ _), ⟨r, before, after, result⟩ => exact ⟨r, before, after, result.mono sub⟩
  | none, _ | some .closed, _ => trivial

theorem count_seen_snoc {kind : Event → Option Nat} (h : kind e ≠ some t) :
    (seen kind (es ++ [e])).count t = (seen kind es).count t := by
  cases hs : kind e with
  | none => rw [seen_snoc_none hs]
  | some u =>
    have other : u ≠ t := fun ht => h (by rw [hs, ht])
    rw [seen_snoc_some hs, List.count_append, List.count_singleton, if_neg (by simpa using other),
      Nat.add_zero]

theorem count_seen_snoc_self {kind : Event → Option Nat} (h : kind e = some t) :
    (seen kind (es ++ [e])).count t = (seen kind es).count t + 1 := by
  rw [seen_snoc_some h, List.count_append, List.count_singleton_self]

/-- An event that is neither an answer nor a response for a ticket does not matter to it. -/
theorem Hears.other {c : Option Channel} (h : Hears s es t c) (undelivered : e.delivered? ≠ some t)
    (unresponded : e.responded? ≠ some t) : Hears s (es ++ [e]) t c where
  known := h.known.mono (List.subset_append_left _ _)
  delivered := (count_seen_snoc undelivered).trans_le h.delivered
  responded := (count_seen_snoc unresponded).trans h.responded

structure Heard (s : Service) (es : List Event) (x : Desk) : Prop where
  unissued : ∀ t, x.pool.tickets ≤ t → x.channel t = none
  hears : ∀ t, Hears s es t (x.channel t)

theorem Heard.turn {c : Channel} (h : Heard s es x) (used : x.channel t ≠ none)
    (own : Hears s (es ++ [e]) t (some c))
    (others : ∀ t', t ≠ t' → e.delivered? ≠ some t' ∧ e.responded? ≠ some t') :
    Heard s (es ++ [e]) (x.turn t c) := by
  refine ⟨fun t' ht' => ?_, fun t' => ?_⟩
  · have hn := h.unissued t' ht'
    have ne : t' ≠ t := fun heq => used (heq ▸ hn)
    exact (Function.update_of_ne ne _ _).trans hn
  · rcases eq_or_ne t t' with rfl | ne
    · rwa [channel_turn_self]
    · have same : (x.turn t c).channel t' = x.channel t' := Function.update_of_ne ne.symm _ _
      rw [same]
      exact (h.hears t').other (others t' ne).1 (others t' ne).2

theorem Heard.step (h : Heard s es x) (counted : Counted es x.pool)
    (explained : Explained s es x.pool) (hs : Step s x e y) : Heard s (es ++ [e]) y := by
  cases hs with
  | start | exit | other => exact ⟨h.unissued, fun t => (h.hears t).other nofun nofun⟩
  | @finish a ha =>
    refine ⟨?_, fun t => (h.hears t).other nofun nofun⟩
    rw [Pool.settle_tickets]
    exact h.unissued
  | submit r wanted =>
    refine ⟨fun t ht => ?_, fun t => ?_⟩
    · have older : x.pool.tickets < t := ht
      exact (Function.update_of_ne older.ne' _ _).trans (h.unissued t older.le)
    · rcases eq_or_ne t x.pool.tickets with rfl | ne
      · have fresh := h.hears x.pool.tickets
        rw [h.unissued _ le_rfl] at fresh
        have same : (x.submit r wanted).channel x.pool.tickets = some (.waiting wanted) :=
          Function.update_self _ _ _
        rw [same]
        exact ⟨⟨r, List.mem_append_right _ List.mem_cons_self⟩,
          (count_seen_snoc (by nofun)).trans_le fresh.delivered,
          (count_seen_snoc (by nofun)).trans fresh.responded⟩
      · have same : (x.submit r wanted).channel t = x.channel t := Function.update_of_ne ne _ _
        rw [same]
        exact (h.hears t).other nofun nofun
  | @deliver t wanted answer hc ha =>
    have own := h.hears t
    rw [hc] at own
    obtain ⟨r, submitted⟩ := own.known
    obtain ⟨r', wanted', before, after, result⟩ :=
      explained.finished _ (Pool.mem_past_of_answer? ha).2
    -- A ticket is handed out once, so the answer is to what this client has asked for.
    obtain ⟨rfl, rfl⟩ := counted.submit_inj submitted result.submitted
    refine h.turn (by simp [hc]) ⟨?_, ?_, ?_⟩ ?_
    · exact ⟨r, before, after, result.mono (List.subset_append_left _ _)⟩
    · rw [count_seen_snoc_self rfl]
      exact Nat.succ_le_succ own.delivered
    · exact (count_seen_snoc (by nofun)).trans own.responded
    · exact fun t' ne => ⟨by simpa [Event.delivered?] using ne, nofun⟩
  | @respond t wanted answer hc =>
    have own := h.hears t
    rw [hc] at own
    refine h.turn (by simp [hc]) ⟨trivial, ?_, ?_⟩ ?_
    · exact (count_seen_snoc (by nofun)).trans_le own.delivered
    · rw [count_seen_snoc_self rfl]
      exact congrArg (· + 1) own.responded
    · exact fun t' ne => ⟨nofun, fun h => ne (Option.some.inj h)⟩
  | @timeOut t c hc hopen =>
    have own := h.hears t
    rw [hc] at own
    have none_yet : Channel.responded (some c) = 0 := by
      cases c with
      | waiting | received => rfl
      | closed => exact absurd rfl hopen
    refine h.turn (by simp [hc]) ⟨trivial, ?_, ?_⟩ ?_
    · exact (count_seen_snoc (by nofun)).trans_le (own.delivered.trans (Channel.delivered_le _))
    · rw [count_seen_snoc_self rfl, own.responded, none_yet]
      rfl
    · exact fun t' ne => ⟨nofun, fun h => ne (Option.some.inj h)⟩

/-! ## Any order of steps -/

/-- The state of a desk, as far as the events before tell it. -/
structure Kept (s : Service) (es : List Event) (x : Desk) : Prop where
  sound : x.pool.Sound s.processor
  busy : Busy s x.pool
  counted : Counted es x.pool
  explained : Explained s es x.pool
  heard : Heard s es x

theorem kept_start (s : Service) (files : Files) : Kept s [] (start s files) where
  sound := Pool.sound_create _ _ _
  busy := ⟨rfl, Nat.zero_le _⟩
  counted := ⟨rfl, .refl _, .refl _, .refl _⟩
  explained := ⟨nofun, nofun, nofun⟩
  heard := ⟨fun _ _ => rfl, fun _ => ⟨trivial, Nat.le_refl _, rfl⟩⟩

theorem Kept.step (h : Kept s es x) (hs : Step s x e y) : Kept s (es ++ [e]) y where
  sound := Pool.Changes.sound hs.changes h.sound
  busy := h.busy.step hs
  counted := h.counted.step h.sound hs
  explained := h.explained.step hs
  heard := h.heard.step h.counted h.explained hs

theorem Trace.kept (h : Trace s (start s files) es x) : Kept s es x := by
  induction h with
  | nil => exact kept_start s files
  | snoc _ step ih => exact ih.step step

/-- There is nothing left to do. -/
def Idle (pool : Pool) : Prop := pool.queued = [] ∧ pool.running = [] ∧ pool.ended = []

namespace Kept

variable (h : Kept s es x)

include h

theorem count_held (ht : t ∈ seen Event.submitted? es) : x.pool.held.count t = 1 := by
  rw [h.counted.submitted] at ht
  rw [h.sound.tickets.count_eq]
  exact List.count_eq_one_of_mem List.nodup_range ht

/-- A request waits, or a worker has it, or there is an answer to it. -/
theorem count_places (ht : t ∈ seen Event.submitted? es) :
    (x.pool.queued.map (·.ticket)).count t +
      ((x.pool.running ++ x.pool.ended).map (·.ticket)).count t +
      (x.pool.finished.map (·.1)).count t = 1 := by
  have held := h.count_held ht
  simp only [Pool.held, Pool.begun, List.count_append, List.map_append] at held ⊢
  omega

theorem count_started : (seen Event.started? es).count t ≤ 1 := by
  rw [h.counted.started.count_eq]
  exact List.nodup_iff_count_le_one.1 h.sound.nodup_begun t

/-- When nothing is left to do, each request has been processed. -/
theorem count_of_idle (idle : Idle x.pool) (ht : t ∈ seen Event.submitted? es) :
    (seen Event.started? es).count t = 1 ∧ (seen Event.finished? es).count t = 1 := by
  have held := h.count_held ht
  obtain ⟨queued, running, ended⟩ := idle
  rw [h.counted.started.count_eq, h.counted.finished.count_eq]
  simp only [Pool.held, Pool.begun, queued, running, ended, List.map_nil, List.nil_append]
    at held ⊢
  exact ⟨held, held⟩

theorem count_delivered : (seen Event.delivered? es).count t ≤ 1 :=
  (h.heard.hears t).delivered.trans (Channel.delivered_le _)

theorem count_responded : (seen Event.responded? es).count t ≤ 1 :=
  (h.heard.hears t).responded.trans_le (Channel.responded_le _)

/-- A client is sent away, or it gets what became of its own request. -/
theorem response_cases {response : Response} (hs : Step s x e y)
    (he : e.response? = some (t, response)) : response = Exchange.timedOut ∨
      ∃ r wanted answer before after, Result s es t r wanted answer before after ∧
        response = (s.reply x.pool.files wanted answer).1 := by
  cases hs with
  | submit | start | exit | finish | deliver | other => cases he
  | timeOut =>
    cases he
    exact .inl rfl
  | respond hc =>
    cases he
    have known := (h.heard.hears t).known
    rw [hc] at known
    obtain ⟨r, before, after, result⟩ := known
    exact .inr ⟨r, _, _, before, after, result, rfl⟩

end Kept

theorem pool_of_timeOut (h : Step s x (.timeOut t) y) : y.pool = x.pool := by
  cases h
  rfl

/-- Whatever has happened at a desk, and in whatever order: no more workers are busy than there
are. Each request that was handed in is in one place, in the queue, with a worker or with the
answers. A worker begins with it at most once, the program is called for it at most once, and by
the time nothing is left to do it has been processed once, no matter whether its client was sent
away. Nothing happens in the pool when a client is. A client gets at most one response, and that
is the one for having waited too long or the reply to the answer that its own request was processed
to. -/
theorem processed_once_answered_once (h : Trace s (start s files) es x) :
    x.pool.running.length + x.pool.ended.length ≤ max 1 s.workers ∧
    (seen Event.submitted? es).Nodup ∧
    (∀ t ∈ seen Event.submitted? es,
      (x.pool.queued.map (·.ticket)).count t +
          ((x.pool.running ++ x.pool.ended).map (·.ticket)).count t +
          (x.pool.finished.map (·.1)).count t = 1 ∧
        (seen Event.started? es).count t ≤ 1 ∧
        (x.pool.calls.map (·.ticket)).count t ≤ 1 ∧
        (Idle x.pool →
          (seen Event.started? es).count t = 1 ∧ (seen Event.finished? es).count t = 1) ∧
        (seen Event.delivered? es).count t ≤ 1 ∧ (seen Event.responded? es).count t ≤ 1) ∧
    (∀ t y, Step s x (.timeOut t) y → y.pool = x.pool) ∧
    ∀ front e back t response, es = front ++ e :: back → e.response? = some (t, response) →
      response = Exchange.timedOut ∨
        ∃ y r wanted answer before after, Trace s (start s files) front y ∧
          Result s front t r wanted answer before after ∧
          response = (s.reply y.pool.files wanted answer).1 := by
  have kept := h.kept
  refine ⟨kept.busy.1 ▸ kept.busy.2, kept.counted.submitted ▸ List.nodup_range, fun t ht => ?_,
    fun t y => pool_of_timeOut, ?_⟩
  · refine ⟨kept.count_places ht, kept.count_started, ?_, fun idle => kept.count_of_idle idle ht,
      kept.count_delivered, kept.count_responded⟩
    exact (kept.counted.called.count_le t).trans kept.count_started
  · rintro front e back t response rfl he
    obtain ⟨y, y', before, step, -⟩ := h.split
    rcases before.kept.response_cases step he with late | ⟨r, wanted, answer, result⟩
    · exact .inl late
    · obtain ⟨before', after, own, reply⟩ := result
      exact .inr ⟨y, r, wanted, answer, before', after, before, own, reply⟩

/-! ### A client that is sent away -/

/-- The request for a small upload is processed although its client was sent away meanwhile. -/
theorem plainWork_processed_without_client :
    ∃ es x, Trace Exchange.plainService (start Exchange.plainService .empty) es x ∧
      .timeOut 0 ∈ es ∧ Idle x.pool ∧ (seen Event.started? es).count 0 = 1 := by
  have submitted := Trace.single
    (@Step.submit Exchange.plainService (start Exchange.plainService .empty) Exchange.plainWork .path)
  have begun := submitted.snoc (@Step.start _ _ ⟨0, Exchange.plainWork⟩ [] [] rfl Nat.one_pos)
  have away := begun.snoc (.timeOut (t := 0) rfl nofun)
  have exited := away.snoc (.exit 0 List.mem_cons_self (by decide +kernel))
  have done := exited.snoc (.finish List.mem_cons_self)
  have once := ((processed_once_answered_once done).2.2.1 0 (by decide)).2.2.2.1
  refine ⟨_, _, done, by simp, ?idle, (once ?idle).1⟩
  exact ⟨Pool.settle_queued, Pool.settle_running, Pool.settle_ended⟩

end Http.Desk

end ImageGateway
