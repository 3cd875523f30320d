import ImageGateway.Proofs.Http.Upload
import Mathlib.Logic.Function.Basic

/-!
The pool at work for uploads. It is `Orderly`: the directory holds the images that were stored, and
for every run that has ended the output that the upload would have alone, and every answer is the
one that the upload would get alone. No step in the pool breaks this (`Orderly.step`), nor does an
image that is stored (`Orderly.store`) or handed in (`Orderly.submit`).
-/

namespace ImageGateway.Http

variable {ι : Type _} {s : Service} {files : Files} {request : ι → Request} {upload : ι → Upload}
  {D : Place} {pool pool' : Pool} {ticket : ι → Option Nat} {staged : ι → Bool} {i j : ι}

/-- The run for an upload has had its effect. -/
def Past (pool : Pool) (ticket : ι → Option Nat) (i : ι) : Prop :=
  ∃ t ∈ pool.past, ticket i = some t

theorem not_past_of_ticket {t : Nat} (hi : ticket i = some t) (ht : t ∉ pool.past) :
    ¬ Past pool ticket i := by
  rintro ⟨t', ht', hi'⟩
  cases hi.symm.trans hi'
  exact ht ht'

theorem update_ticket_iff [DecidableEq ι] {n t : Nat} (hi : ticket i = none) :
    Function.update ticket i (some n) j = some t ↔ ticket j = some t ∨ j = i ∧ t = n := by
  by_cases e : j = i
  · rw [e, Function.update_self, hi]
    simp [eq_comm]
  · rw [Function.update_of_ne e]
    simp [e]

/-- The pool has done for each upload what it would do for that upload alone, or nothing yet. -/
structure Orderly (s : Service) (files : Files) (upload : ι → Upload) (D : Place) (pool : Pool)
    (ticket : ι → Option Nat) (staged : ι → Bool) : Prop where
  grown : (s.ready files).Grown (Owned upload D) pool.files
  sound : pool.Sound s.processor
  owner : ∀ t < pool.tickets, ∃ i, ticket i = some t
  issued : ∀ i t, ticket i = some t → t < pool.tickets ∧ staged i = true ∧
    pool.Holds s.processor t ((upload i).work s)
  distinct : ∀ i j t, ticket i = some t → ticket j = some t → i = j
  inputs : ∀ i, pool.files.get? ((upload i).input D) =
    if staged i then some (upload i).image else none
  written : ∀ i, Past pool ticket i → pool.files.get? ((upload i).output D) =
    ((upload i).lone s (s.ready files) D).files.get? ((upload i).output D)
  unwritten : ∀ i, ¬ Past pool ticket i → pool.files.get? ((upload i).output D) = none
  /-- A run begins with the image in place and without an output. -/
  begun : ∀ a ∈ pool.running ++ pool.ended, ∀ i, ticket i = some a.ticket →
    (upload i).Fresh (s.ready files) (Owned upload D) D a.before
  finished : ∀ y ∈ pool.finished, ∀ i, ticket i = some y.1 →
    y.2 = ((upload i).lone s (s.ready files) D).answer

namespace Orderly

section

variable (ho : Orderly s files upload D pool ticket staged)

include ho

theorem stocked_of_ticket {t : Nat} (ht : ticket i = some t) :
    (upload i).Stocked (s.ready files) (Owned upload D) D pool.files where
  grown := ho.grown
  image := by rw [ho.inputs, if_pos (ho.issued i t ht).2.1]

theorem take {job : Job} {front rest : List Job} (hq : pool.queued = front ++ job :: rest) :
    Orderly s files upload D (pool.taking s.processor job (front ++ rest)) ticket staged where
  grown := ho.grown
  sound := ho.sound.take hq
  owner := ho.owner
  issued i t ht := by
    obtain ⟨hlt, hs, holds⟩ := ho.issued i t ht
    exact ⟨hlt, hs, holds.take hq⟩
  distinct := ho.distinct
  inputs := ho.inputs
  written := ho.written
  unwritten := ho.unwritten
  begun a ha i hi := by
    rcases Pool.mem_active_of_taking ha with rfl | ha
    · have queued : job ∈ pool.queued := by simp [hq]
      have waits := not_past_of_ticket hi (ho.sound.notMem_past_of_queued queued)
      exact ⟨ho.stocked_of_ticket hi, ho.unwritten i waits⟩
    · exact ho.begun a ha i hi
  finished := ho.finished

theorem pass {now : Nat} {logs : List Log.Event} {metrics : Metrics} :
    Orderly s files upload D { pool with now, logs, metrics } ticket staged where
  grown := ho.grown
  sound := (Pool.Step.pass now logs metrics).sound ho.sound
  owner := ho.owner
  issued i t ht := by
    obtain ⟨hlt, hs, holds⟩ := ho.issued i t ht
    exact ⟨hlt, hs, (Pool.Step.pass now logs metrics).holds holds⟩
  distinct := ho.distinct
  inputs := ho.inputs
  written := ho.written
  unwritten := ho.unwritten
  begun := ho.begun
  finished := ho.finished

end

section

variable (h : Independent s files request upload)
  (hD : (s.ready files).locate s.processor.cwd s.uploads.path true = .ok ⟨D, some .dir⟩)
  (ho : Orderly s files upload D pool ticket staged)

include h hD ho

/-- What ends with an activity is the writing of one output, as it would be written alone. -/
theorem get?_carried {a : Activity} (ha : a ∈ pool.running) (hi : ticket i = some a.ticket)
    (p : Place) : (a.carried pool.files).get? p = if p = (upload i).output D
      then ((upload i).lone s (s.ready files) D).files.get? p else pool.files.get? p := by
  obtain ⟨c, hc, -⟩ := h.prepare i
  have fresh := ho.begun a (List.mem_append_left _ ha) i hi
  have attempt := (ho.issued i _ hi).2.2.active a (List.mem_append_left _ ha) rfl
  rw [Processor.attempt_of_prepare hc] at attempt
  have effect := (h.effect hD fresh hc).2
  have apart := (h.isolated D hD i c hc).writes a.before fresh p
  have unwritten := ho.unwritten i
    (not_past_of_ticket hi (ho.sound.notMem_past_of_running ha))
  rw [Activity.carried, attempt]
  simp only
  rw [Files.get?_carry]
  by_cases hp : p = (upload i).output D
  · subst hp
    -- A run that leaves its place as it was found is not carried over, but the place was free
    -- then and is free now.
    rw [if_pos rfl, effect]
    split
    · rename_i same
      rw [unwritten, ← same, fresh.vacant]
    · rfl
  · rw [if_neg hp, if_pos (apart hp).symm]

theorem land {a : Activity} {time : Nat} (ha : a ∈ pool.running) :
    Orderly s files upload D (pool.land a time) ticket staged := by
  obtain ⟨i, hi⟩ := ho.owner a.ticket (ho.sound.lt_of_mem_active (List.mem_append_left _ ha))
  have carried := ho.get?_carried h hD ha hi
  have past : Past (pool.land a time) ticket i := ⟨_, Pool.mem_past_land_iff.2 (.inr rfl), hi⟩
  -- No other upload has the ticket of this run.
  have past_iff (j : ι) (hj : j ≠ i) : Past (pool.land a time) ticket j ↔ Past pool ticket j := by
    simp only [Past, Pool.mem_past_land_iff]
    constructor
    · rintro ⟨t, ht | rfl, hjt⟩
      · exact ⟨t, ht, hjt⟩
      · exact absurd (ho.distinct j i _ hjt hi) hj
    · rintro ⟨t, ht, hjt⟩
      exact ⟨t, .inl ht, hjt⟩
  have elsewhere {p : Place} (hp : p ≠ (upload i).output D) :
      (pool.land a time).files.get? p = pool.files.get? p := (carried p).trans (if_neg hp)
  have there : (pool.land a time).files.get? ((upload i).output D) =
      ((upload i).lone s (s.ready files) D).files.get? ((upload i).output D) :=
    (carried _).trans (if_pos rfl)
  refine ⟨?_, ho.sound.land ha time, ho.owner, ?_, ho.distinct, ?_, ?_, ?_, ?_, ho.finished⟩
  · intro p hp
    rw [elsewhere fun e => hp ⟨i, .inr e⟩]
    exact ho.grown p hp
  · intro j t hjt
    obtain ⟨hlt, hs, holds⟩ := ho.issued j t hjt
    exact ⟨hlt, hs, holds.land ha time⟩
  · intro j
    rw [elsewhere Upload.input_ne_output]
    exact ho.inputs j
  · intro j hj
    by_cases e : j = i
    · rw [e, there]
    · rw [elsewhere fun he => e (h.output_inj he)]
      exact ho.written j ((past_iff j e).1 hj)
  · intro j hj
    have e : j ≠ i := by
      rintro rfl
      exact hj past
    rw [elsewhere fun he => e (h.output_inj he)]
    exact ho.unwritten j fun hpast => hj ((past_iff j e).2 hpast)
  · intro b hb
    exact ho.begun b (Pool.mem_active_of_land ha hb)

theorem settle {a : Activity} (ha : a ∈ pool.ended) :
    Orderly s files upload D (pool.settle s.processor a) ticket staged := by
  have past_iff (i : ι) : Past (pool.settle s.processor a) ticket i ↔ Past pool ticket i := by
    simp only [Past, Pool.mem_past_settle_iff ha]
  refine ⟨?_, ho.sound.settle ha, ?_, ?_, ho.distinct, ?_, ?_, ?_, ?_, ?_⟩
  · rw [Pool.settle_files]
    exact ho.grown
  · rw [Pool.settle_tickets]
    exact ho.owner
  · intro i t hi
    obtain ⟨hlt, hs, holds⟩ := ho.issued i t hi
    exact ⟨by rwa [Pool.settle_tickets], hs, holds.settle ha⟩
  · rw [Pool.settle_files]
    exact ho.inputs
  · intro i hi
    rw [Pool.settle_files]
    exact ho.written i ((past_iff i).1 hi)
  · intro i hi
    rw [Pool.settle_files]
    exact ho.unwritten i fun hpast => hi ((past_iff i).2 hpast)
  · intro b hb
    exact ho.begun b (Pool.mem_active_of_settle hb)
  · intro y hy i hi
    rw [Pool.settle_finished] at hy
    rcases List.mem_cons.1 hy with rfl | hy
    · have mem := List.mem_append_right pool.running ha
      dsimp only at hi ⊢
      have verdict := h.verdict_eq hD (ho.begun a mem i hi) (ho.stocked_of_ticket hi)
        (ho.written i ⟨_, Pool.mem_past_of_ended ha, hi⟩)
      rw [(ho.issued i _ hi).2.2.active a mem rfl, verdict]
    · exact ho.finished y hy i hi

/-- Whatever happens in the pool, it stays orderly. -/
theorem step (hs : Pool.Step s.processor pool pool') :
    Orderly s files upload D pool' ticket staged := by
  cases hs with
  | take hq _ => exact ho.take hq
  | land time ha => exact ho.land h hD ha
  | settle ha => exact ho.settle h hD ha
  | pass => exact ho.pass

end

section

variable [DecidableEq ι] (h : Independent s files request upload)
  (ho : Orderly s files upload D pool ticket staged)

include h ho

theorem store (i : ι) : Orderly s files upload D
    { pool with files := pool.files.set ((upload i).input D) (upload i).image } ticket
    (Function.update staged i true) := by
  have there := Files.get?_set_self pool.files (upload i).image
    (List.cons_ne_nil (upload i).inputName D)
  have elsewhere {p : Place} (hp : p ≠ (upload i).input D) :
      (pool.files.set ((upload i).input D) (upload i).image).get? p = pool.files.get? p :=
    Files.get?_set_of_ne _ _ hp
  have change : Pool.Change s.processor pool
      { pool with files := pool.files.set ((upload i).input D) (upload i).image } := .store _
  refine ⟨?_, change.sound ho.sound, ho.owner, ?_, ho.distinct, ?_, ?_, ?_, ho.begun, ho.finished⟩
  · exact ho.grown.set ⟨i, .inl rfl⟩
  · intro j t hj
    obtain ⟨hlt, hs, holds⟩ := ho.issued j t hj
    refine ⟨hlt, ?_, change.holds hlt holds⟩
    by_cases e : j = i
    · rw [e, Function.update_self]
    · rw [Function.update_of_ne e, hs]
  · intro j
    by_cases e : j = i
    · rw [e, Function.update_self, if_pos rfl]
      exact there
    · rw [Function.update_of_ne e, elsewhere fun he => e (h.input_inj he)]
      exact ho.inputs j
  · intro j hj
    rw [elsewhere Upload.input_ne_output.symm]
    exact ho.written j hj
  · intro j hj
    rw [elsewhere Upload.input_ne_output.symm]
    exact ho.unwritten j hj

omit h in
theorem past_submit_iff (hi : ticket i = none) (r : ImageGateway.Request) :
    Past (pool.submit r) (Function.update ticket i (some pool.tickets)) j ↔
      Past pool ticket j := by
  constructor
  · rintro ⟨t, ht, hj⟩
    rcases (update_ticket_iff hi).1 hj with hj | ⟨-, rfl⟩
    · exact ⟨t, ht, hj⟩
    · exact absurd (ho.sound.lt_of_mem_past ht) (Nat.lt_irrefl _)
  · rintro ⟨t, ht, hj⟩
    exact ⟨t, ht, (update_ticket_iff hi).2 (.inl hj)⟩

omit h in
theorem submit (hi : ticket i = none) (hs : staged i = true) : Orderly s files upload D
    (pool.submit ((upload i).work s)) (Function.update ticket i (some pool.tickets)) staged := by
  -- The new ticket is above all that are in the pool, so that these belong to whom they did.
  have old {j : ι} {t : Nat} (ht : t < pool.tickets)
      (hj : Function.update ticket i (some pool.tickets) j = some t) : ticket j = some t := by
    rcases (update_ticket_iff hi).1 hj with hj | ⟨-, rfl⟩
    · exact hj
    · exact absurd ht (Nat.lt_irrefl _)
  refine ⟨ho.grown, ho.sound.submit _, ?_, ?_, ?_, ho.inputs, ?_, ?_, ?_, ?_⟩
  · intro t ht
    rcases Nat.lt_succ_iff_lt_or_eq.1 ht with ht | rfl
    · obtain ⟨j, hj⟩ := ho.owner t ht
      exact ⟨j, (update_ticket_iff hi).2 (.inl hj)⟩
    · exact ⟨i, Function.update_self _ _ _⟩
  · intro j t hj
    rcases (update_ticket_iff hi).1 hj with hj | ⟨rfl, rfl⟩
    · obtain ⟨hlt, hs, holds⟩ := ho.issued j t hj
      exact ⟨Nat.lt_succ_of_lt hlt, hs, holds.submit hlt _⟩
    · exact ⟨Nat.lt_succ_self _, hs, Pool.Holds.of_submit ho.sound _⟩
  · intro j k t hj hk
    rcases (update_ticket_iff hi).1 hj with hj | ⟨rfl, rfl⟩
    · exact ho.distinct j k t hj (old (ho.issued j t hj).1 hk)
    · rcases (update_ticket_iff hi).1 hk with hk | ⟨rfl, -⟩
      · exact absurd (ho.issued k _ hk).1 (Nat.lt_irrefl _)
      · rfl
  · exact fun j hj => ho.written j ((ho.past_submit_iff hi _).1 hj)
  · exact fun j hj => ho.unwritten j fun hpast => hj ((ho.past_submit_iff hi _).2 hpast)
  · intro a ha j hj
    exact ho.begun a ha j (old (ho.sound.lt_of_mem_active ha) hj)
  · intro y hy j hj
    have past : y.1 ∈ pool.past := List.mem_append_right _ (List.mem_map_of_mem hy)
    exact ho.finished y hy j (old (ho.sound.lt_of_mem_past past) hj)

end

end Orderly

end ImageGateway.Http
