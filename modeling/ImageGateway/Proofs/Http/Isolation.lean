import ImageGateway.Proofs.Http.Orderly
import ImageGateway.Proofs.Http.Traffic

/-!
Uploads that come at the same time do not disturb one another. Until their directory is there they
are `Unready`, and from then on `Undisturbed`: the pool is orderly, and every stage is `Proper`. No
step of the traffic breaks this, so that every response is the one to a request that comes alone
(`Traffic.uploads_do_not_interfere`).
-/

namespace ImageGateway.Http

variable {ι : Type _} {s : Service} {files : Files} {request : ι → Request} {upload : ι → Upload}
  {D : Place} {pool pool' : Pool} {ticket : ι → Option Nat} {staged : ι → Bool} {i : ι}

/-! ## Stages -/

/-- What a stage of an upload says. A response is the one to the upload alone. -/
def Proper (s : Service) (files : Files) (request : ι → Request) (upload : ι → Upload) (D : Place)
    (pool : Pool) (ticket : ι → Option Nat) (staged : ι → Bool) (i : ι) : Stage → Prop
  | .arrived | .ready | .away (some _) => ticket i = none ∧ staged i = false
  | .stored => ticket i = none ∧ staged i = true
  | .waiting wanted => wanted = .image
  | .judged wanted answer => wanted = .image ∧ Past pool ticket i ∧
      answer = ((upload i).lone s (s.ready files) D).answer
  | .answered response => response = s.alone files (upload i).id (request i)
  | .away none => True

/-- What a stage says stays true when runs have their effects and other uploads move on. -/
theorem Proper.mono {ticket' : ι → Option Nat} {staged' : ι → Bool} {stage : Stage}
    (hp : Proper s files request upload D pool ticket staged i stage)
    (ht : ticket' i = ticket i) (hs : staged' i = staged i)
    (ho : Past pool ticket i → Past pool' ticket' i) :
    Proper s files request upload D pool' ticket' staged' i stage := by
  cases stage with
  | arrived | ready | stored => exact ⟨ht.trans hp.1, hs.trans hp.2⟩
  | waiting | answered => exact hp
  | judged => exact ⟨hp.1, ho hp.2.1, hp.2.2⟩
  | away pending =>
    cases pending with
    | none => trivial
    | some a => exact ⟨ht.trans hp.1, hs.trans hp.2⟩

/-- The directory for uploads is at `D`, and the uploads do not disturb one another. -/
structure Undisturbed (s : Service) (files : Files) (request : ι → Request) (upload : ι → Upload)
    (D : Place) (x : Traffic ι) : Prop where
  orderly : Orderly s files upload D x.pool x.ticket x.staged
  stored : ∀ i, x.staged i = true → Path.Usable ((upload i).inputPath s) ∧
    s.alone files (upload i).id (request i) =
      (s.reply ((upload i).lone s (s.ready files) D).files .image
        ((upload i).lone s (s.ready files) D).answer).1
  proper : ∀ i, Proper s files request upload D x.pool x.ticket x.staged i (x.stage i)

/-- A stage that an upload may be in without a directory for uploads. -/
def Early (alone : Response) : Stage → Prop
  | .arrived | .away none | .away (some .making) => True
  | .answered response => response = alone
  | .ready | .stored | .waiting _ | .judged .. | .away (some .writing) => False

/-- The directory for uploads is still to be made, or it cannot be made. -/
structure Unready (s : Service) (files : Files) (request : ι → Request) (upload : ι → Upload)
    (x : Traffic ι) : Prop where
  sound : x.pool.Sound s.processor
  tickets : x.pool.tickets = 0
  made : ∃ answer, s.uploads.makeReady s.processor.cwd x.pool.files = (s.ready files, answer) ∧
    (answer = .ok () ↔ (s.uploads.makeReady s.processor.cwd files).2 = .ok ())
  ticket : ∀ i, x.ticket i = none
  staged : ∀ i, x.staged i = false
  stages : ∀ i, Early (s.alone files (upload i).id (request i)) (x.stage i)

section

variable [DecidableEq ι] {x y : Traffic ι}

omit [DecidableEq ι] in
theorem unready_start (workers : Nat) :
    Unready s files request upload (Traffic.start ι workers files) where
  sound := Pool.sound_create _ _ _
  tickets := rfl
  made := ⟨_, rfl, Iff.rfl⟩
  ticket _ := rfl
  staged _ := rfl
  stages _ := trivial

namespace Undisturbed

variable (h : Independent s files request upload)
  (hD : (s.ready files).locate s.processor.cwd s.uploads.path true = .ok ⟨D, some .dir⟩)
  (hu : Undisturbed s files request upload D x)

section

include hu

theorem move {stage : Stage}
    (hp : Proper s files request upload D x.pool x.ticket x.staged i stage) :
    Undisturbed s files request upload D (x.move i stage) where
  orderly := hu.orderly
  stored := hu.stored
  proper := (Function.forall_update_iff x.stage
    (Proper s files request upload D x.pool x.ticket x.staged)).2 ⟨hp, fun j _ => hu.proper j⟩

theorem submit (hi : x.stage i = .stored) :
    Undisturbed s files request upload D (x.handIn i ((upload i).work s) .image) := by
  have hp := hu.proper i
  rw [hi] at hp
  obtain ⟨ht, hs⟩ := hp
  refine ⟨hu.orderly.submit ht hs, hu.stored, ?_⟩
  refine (Function.forall_update_iff x.stage (Proper s files request upload D
    (x.pool.submit ((upload i).work s)) (Function.update x.ticket i (some x.pool.tickets))
    x.staged)).2 ⟨rfl, fun j e => ?_⟩
  have ticket := Function.update_of_ne e (some x.pool.tickets) x.ticket
  apply (hu.proper j).mono ticket rfl
  rintro ⟨t, ht, hj⟩
  exact ⟨t, ht, ticket.trans hj⟩

end

section

include h hD hu

omit [DecidableEq ι] in
theorem work (hs : Pool.Step s.processor x.pool pool) :
    Undisturbed s files request upload D { x with pool } := by
  refine ⟨hu.orderly.step h hD hs, hu.stored, fun j => (hu.proper j).mono rfl rfl ?_⟩
  rintro ⟨t, ht, hj⟩
  exact ⟨t, hs.past_subset ht, hj⟩

omit h hD in
theorem deliver {wanted : Reply} {t : Nat} {answer : Except Failure String}
    (hi : x.stage i = .waiting wanted) (ht : x.ticket i = some t)
    (ha : x.pool.answer? t = some answer) :
    Undisturbed s files request upload D (x.move i (.judged wanted answer)) := by
  have hp := hu.proper i
  rw [hi] at hp
  obtain ⟨past, mem⟩ := Pool.mem_past_of_answer? ha
  exact hu.move ⟨hp, ⟨t, past, ht⟩, hu.orderly.finished _ mem i ht⟩

theorem reply {wanted : Reply} {answer : Except Failure String}
    (hi : x.stage i = .judged wanted answer) :
    Undisturbed s files request upload D
      (x.move i (.answered (s.reply x.pool.files wanted answer).1)) := by
  have hp := hu.proper i
  rw [hi] at hp
  obtain ⟨rfl, past, rfl⟩ := hp
  obtain ⟨t, ht, hit⟩ := past
  have replied := h.reply_eq hD (hu.orderly.stocked_of_ticket hit)
    (hu.orderly.written i ⟨t, ht, hit⟩)
  have alone := (hu.stored i (hu.orderly.issued i t hit).2.1).2
  rw [replied, ← alone]
  exact hu.move rfl

omit h hD in
/-- A client is sent away, possibly in the middle of an access to the files. -/
theorem leave {pending : Option Access} (hp : ∀ a ∈ pending, x.stage i = a.due) :
    Undisturbed s files request upload D (x.move i (.away pending)) := by
  apply hu.move
  cases pending with
  | none => trivial
  | some a =>
    have proper := hu.proper i
    rw [hp a rfl] at proper
    cases a with
    | making | writing => exact proper

end

section

variable {next : Except Trouble Unit → Stage}

include h hD hu

theorem making (hnext : next (.ok ()) = .ready ∨ next (.ok ()) = .away none)
    (hi : x.ticket i = none ∧ x.staged i = false) : Undisturbed s files request upload D
      (x.access s (upload i).id i (upload i).submission .making next) := by
  have located := hu.orderly.grown.locate_dir h.free hD
  have run : Access.making.run s x.pool.files (upload i).id (upload i).submission =
      (x.pool.files, .ok ()) :=
    UploadStore.makeReady_of_isDir h.absolute (Files.isDir_iff.2 ⟨D, located⟩)
  rw [Traffic.access_eq_move run rfl]
  apply hu.move
  rcases hnext with e | e
  · rw [e]
    exact hi
  · rw [e]
    trivial

omit hD in
/-- An image has been stored. -/
theorem store {stage : Stage} (usable : Path.Usable ((upload i).inputPath s))
    (alone : s.alone files (upload i).id (request i) =
      (s.reply ((upload i).lone s (s.ready files) D).files .image
        ((upload i).lone s (s.ready files) D).answer).1)
    (hp : Proper s files request upload D x.pool x.ticket (Function.update x.staged i true) i
      stage) :
    Undisturbed s files request upload D { x with
      pool := { x.pool with files := x.pool.files.set ((upload i).input D) (upload i).image }
      stage := Function.update x.stage i stage
      staged := Function.update x.staged i true } where
  orderly := hu.orderly.store h i
  stored := (Function.forall_update_iff x.staged fun _ staged => staged = true → _).2
    ⟨fun _ => ⟨usable, alone⟩, fun j _ => hu.stored j⟩
  proper := (Function.forall_update_iff x.stage (Proper s files request upload D _ x.ticket
      (Function.update x.staged i true))).2
    ⟨hp.mono rfl rfl id, fun j e => (hu.proper j).mono rfl (Function.update_of_ne e _ _) id⟩

theorem writing (hm : s.uploads.makeReady s.processor.cwd files = (s.ready files, .ok ()))
    (hnext : ∀ answer, next answer = Access.writing.next answer ∨ next answer = .away none)
    (hi : x.ticket i = none ∧ x.staged i = false) : Undisturbed s files request upload D
      (x.access s (upload i).id i (upload i).submission .writing next) := by
  -- Whether the path can be used depends neither on the files nor on the order.
  rcases h.write_cases hD i with ⟨usable, written⟩ | ⟨t, refused⟩
  · have image := hu.orderly.inputs i
    rw [if_neg (by simp [hi.2])] at image
    have alone := h.alone_of_written hm
      (written _ (.refl _) (h.free _ ⟨i, .inl rfl⟩))
    have run : Access.writing.run s x.pool.files (upload i).id (upload i).submission =
        (x.pool.files.set ((upload i).input D) (upload i).image, .ok ()) := by
      rw [Access.run, written _ hu.orderly.grown image]
      rfl
    rw [Traffic.access, run]
    simp only [Access.stores, Bool.or_true]
    refine hu.store h usable alone ?_
    rcases hnext (.ok ()) with e | e
    · rw [e]
      exact ⟨hi.1, Function.update_self _ _ _⟩
    · rw [e]
      trivial
  · have run : Access.writing.run s x.pool.files (upload i).id (upload i).submission =
        (x.pool.files, .error t) := by
      rw [Access.run, refused]
      rfl
    rw [Traffic.access_eq_move run rfl]
    apply hu.move
    rcases hnext (.error t) with e | e
    · rw [e]
      exact (h.alone_of_unwritten t.head hm (refused _)).symm
    · rw [e]
      trivial

end

end Undisturbed

/-- Uploads do not disturb one another, whether or not their directory is there. -/
def Apart (s : Service) (files : Files) (request : ι → Request) (upload : ι → Upload)
    (x : Traffic ι) : Prop :=
  Unready s files request upload x ∨ ∃ D,
    (s.ready files).locate s.processor.cwd s.uploads.path true = .ok ⟨D, some .dir⟩ ∧
    s.uploads.makeReady s.processor.cwd files = (s.ready files, .ok ()) ∧
    Undisturbed s files request upload D x

namespace Unready

variable (h : Independent s files request upload) (hu : Unready s files request upload x)

section

include hu

theorem move {stage : Stage}
    (hp : Early (s.alone files (upload i).id (request i)) stage) :
    Unready s files request upload (x.move i stage) where
  sound := hu.sound
  tickets := hu.tickets
  made := hu.made
  ticket := hu.ticket
  staged := hu.staged
  stages := (Function.forall_update_iff x.stage fun j =>
    Early (s.alone files (upload j).id (request j))).2 ⟨hp, fun j _ => hu.stages j⟩

omit [DecidableEq ι] in
/-- Nothing can happen in the pool that changes the files. -/
theorem work (hs : Pool.Step s.processor x.pool pool) :
    Unready s files request upload { x with pool } := by
  have sound := hs.sound hu.sound
  have tickets := hs.tickets.trans hu.tickets
  refine ⟨sound, tickets, ?_, hu.ticket, hu.staged, hu.stages⟩
  rcases hs.files hu.sound with same | ⟨c, hc, -⟩
  · rw [same]
    exact hu.made
  · have := sound.lt_of_mem_calls hc
    omega

theorem leave {pending : Option Access} (hp : ∀ a ∈ pending, x.stage i = a.due) :
    Unready s files request upload (x.move i (.away pending)) := by
  apply hu.move
  cases pending with
  | none => trivial
  | some a =>
    cases a with
    | making => trivial
    | writing =>
      have early := hu.stages i
      rw [hp .writing rfl] at early
      exact early

end

include h hu

omit [DecidableEq ι] in
/-- With its directory made, the pool is ready for uploads. -/
theorem orderly : Orderly s files upload D { x.pool with files := s.ready files } x.ticket
    x.staged where
  grown := .refl _
  sound := (Pool.Change.store _).sound hu.sound
  owner t ht := by
    have lt : t < x.pool.tickets := ht
    rw [hu.tickets] at lt
    exact absurd lt (Nat.not_lt_zero t)
  issued i t ht := by simp [hu.ticket] at ht
  distinct i j t ht := by simp [hu.ticket] at ht
  inputs i := by
    rw [if_neg (by simp [hu.staged])]
    exact h.free _ ⟨i, .inl rfl⟩
  written i hi := by
    obtain ⟨t, -, ht⟩ := hi
    simp [hu.ticket] at ht
  unwritten i _ := h.free _ ⟨i, .inr rfl⟩
  begun a _ i hi := by simp [hu.ticket] at hi
  finished y _ i hi := by simp [hu.ticket] at hi

omit [DecidableEq ι] h in
theorem proper (j : ι) :
    Proper s files request upload D pool x.ticket x.staged j (x.stage j) := by
  have early := hu.stages j
  have free : x.ticket j = none ∧ x.staged j = false := ⟨hu.ticket j, hu.staged j⟩
  cases hstage : x.stage j with
  | arrived => exact free
  | answered response =>
    rw [hstage] at early
    exact early
  | away pending =>
    cases pending with
    | none => trivial
    | some a => exact free
  | ready | stored | waiting | judged =>
    rw [hstage] at early
    exact early.elim

/-- The directory for uploads has been made. -/
theorem made_ok {stage : Stage}
    (hp : Proper s files request upload D x.pool x.ticket x.staged i stage) :
    Undisturbed s files request upload D { x with
      pool := { x.pool with files := s.ready files }
      stage := Function.update x.stage i stage } where
  orderly := hu.orderly h
  stored j hj := absurd hj (by simp [hu.staged])
  proper := (Function.forall_update_iff x.stage
    (Proper s files request upload D _ x.ticket x.staged)).2
      ⟨hp.mono rfl rfl id, fun j _ => hu.proper j⟩

omit h in
/-- It could not be made, and cannot be made the next time either. -/
theorem made_error {t t' : Trouble}
    (hm : s.uploads.makeReady s.processor.cwd files = (s.ready files, .error t))
    (again : s.uploads.makeReady s.processor.cwd (s.ready files) = (s.ready files, .error t'))
    {stage : Stage} (hp : Early (s.alone files (upload i).id (request i)) stage) :
    Unready s files request upload { x with
      pool := { x.pool with files := s.ready files }
      stage := Function.update x.stage i stage } where
  sound := (Pool.Change.store _).sound hu.sound
  tickets := hu.tickets
  made := ⟨_, again, by simp [hm]⟩
  ticket := hu.ticket
  staged := hu.staged
  stages := (Function.forall_update_iff x.stage fun j =>
    Early (s.alone files (upload j).id (request j))).2 ⟨hp, fun j _ => hu.stages j⟩

theorem making {next : Except Trouble Unit → Stage}
    (hnext : ∀ answer, next answer = Access.making.next answer ∨ next answer = .away none) :
    Apart s files request upload
      (x.access s (upload i).id i (upload i).submission .making next) := by
  obtain ⟨answer, hmake, hiff⟩ := hu.made
  have run : Access.making.run s x.pool.files (upload i).id (upload i).submission =
      (s.ready files, answer) := hmake
  rw [Traffic.access, run]
  cases answer with
  | ok =>
    have hm : s.uploads.makeReady s.processor.cwd files = (s.ready files, .ok ()) :=
      Prod.ext rfl (hiff.1 rfl)
    obtain ⟨D, hD⟩ := Files.isDir_iff.1 (UploadStore.isDir_of_makeReady h.absolute hm)
    refine .inr ⟨D, hD, hm, ?_⟩
    simp only [Access.stores, Bool.or_false, Function.update_eq_self]
    refine hu.made_ok h ?_
    rcases hnext (.ok ()) with e | e
    · rw [e]
      exact ⟨hu.ticket i, hu.staged i⟩
    · rw [e]
      trivial
  | error t =>
    obtain ⟨t', hm⟩ :
        ∃ t', s.uploads.makeReady s.processor.cwd files = (s.ready files, .error t') := by
      cases hfirst : (s.uploads.makeReady s.processor.cwd files).2 with
      | ok => cases hiff.2 hfirst
      | error t' => exact ⟨t', Prod.ext rfl hfirst⟩
    obtain ⟨t'', again⟩ := UploadStore.makeReady_of_error h.absolute hmake
    left
    simp only [Access.stores, Bool.or_false, Function.update_eq_self]
    refine hu.made_error hm again ?_
    rcases hnext (.error t) with e | e
    · rw [e]
      exact (h.alone_of_unready t.head hm).symm
    · rw [e]
      trivial

end Unready

/-! ## All steps -/

theorem Unready.step (h : Independent s files request upload)
    (hs : Traffic.Step s request (fun i => (upload i).drawn) x y)
    (hu : Unready s files request upload x) : Apart s files request upload y := by
  have early {i : ι} {stage : Stage} (hi : x.stage i = stage) :
      Early (s.alone files (upload i).id (request i)) stage := hi ▸ hu.stages i
  cases hs with
  | answer _ hd => cases (h.demand _).symm.trans hd
  | ask _ hd => cases (h.demand _).symm.trans hd
  | @access i u a hi hd =>
    cases (h.demand i).symm.trans hd
    cases a with
    | making => exact hu.making h fun _ => .inl rfl
    | writing => exact (early hi).elim
  | submit hi => exact (early hi).elim
  | work hs => exact .inl (hu.work hs)
  | deliver hi => exact (early hi).elim
  | reply hi => exact (early hi).elim
  | leave pending _ _ hp => exact .inl (hu.leave hp)
  | @linger i u a hi hd =>
    cases (h.demand i).symm.trans hd
    cases a with
    | making => exact hu.making h fun _ => .inr rfl
    | writing => exact (early hi).elim

theorem Undisturbed.step (h : Independent s files request upload)
    (hD : (s.ready files).locate s.processor.cwd s.uploads.path true = .ok ⟨D, some .dir⟩)
    (hm : s.uploads.makeReady s.processor.cwd files = (s.ready files, .ok ()))
    (hs : Traffic.Step s request (fun i => (upload i).drawn) x y)
    (hu : Undisturbed s files request upload D x) :
    Undisturbed s files request upload D y := by
  have proper {i : ι} {stage : Stage} (hi : x.stage i = stage) :
      Proper s files request upload D x.pool x.ticket x.staged i stage := hi ▸ hu.proper i
  cases hs with
  | answer _ hd => cases (h.demand _).symm.trans hd
  | ask _ hd => cases (h.demand _).symm.trans hd
  | @access i u a hi hd =>
    cases (h.demand i).symm.trans hd
    cases a with
    | making => exact hu.making h hD (.inl rfl) (proper hi)
    | writing => exact hu.writing h hD hm (fun _ => .inl rfl) (proper hi)
  | @submit i u hi hd =>
    cases (h.demand i).symm.trans hd
    exact hu.submit hi
  | work hs => exact hu.work h hD hs
  | deliver hi ht ha => exact hu.deliver hi ht ha
  | reply hi => exact hu.reply h hD hi
  | leave pending _ _ hp => exact hu.leave hp
  | @linger i u a hi hd =>
    cases (h.demand i).symm.trans hd
    cases a with
    | making => exact hu.making h hD (.inr rfl) (proper hi)
    | writing => exact hu.writing h hD hm (fun _ => .inr rfl) (proper hi)

theorem Apart.steps (h : Independent s files request upload)
    (hs : Traffic.Steps s request (fun i => (upload i).drawn) x y)
    (hx : Apart s files request upload x) : Apart s files request upload y := by
  induction hs with
  | refl => exact hx
  | tail _ step ih =>
    rcases ih with hu | ⟨D, hD, hm, hu⟩
    · exact hu.step h step
    · exact .inr ⟨D, hD, hm, hu.step h hD hm step⟩

omit [DecidableEq ι] in
/-- Every call of the program is for one of the uploads, with its image and its output. -/
theorem Apart.args_of_call (h : Independent s files request upload)
    (hx : Apart s files request upload x) {c : Call} (hc : c ∈ x.pool.calls) :
    ∃ i tokens, x.ticket i = some c.ticket ∧ c.args =
      [(upload i).inputPath s, (upload i).submission.mlConfig, (upload i).outputPath s] ++
        tokens := by
  rcases hx with hu | ⟨D, hD, -, hu⟩
  · have lt := hu.sound.lt_of_mem_calls hc
    rw [hu.tickets] at lt
    exact absurd lt (Nat.not_lt_zero _)
  · obtain ⟨i, hi⟩ := hu.orderly.owner _ (hu.orderly.sound.lt_of_mem_calls hc)
    obtain ⟨a, ha, hargs⟩ := (hu.orderly.issued i _ hi).2.2.calls c hc rfl
    exact ⟨i, _, hi, hargs.trans (h.args_of_prepare ha)⟩

omit [DecidableEq ι] in
theorem Apart.response (hx : Apart s files request upload x) {response : Response}
    (hi : x.stage i = .answered response) :
    response = s.alone files (upload i).id (request i) := by
  rcases hx with hu | ⟨D, -, -, hu⟩
  · have early := hu.stages i
    rw [hi] at early
    exact early
  · have proper := hu.proper i
    rw [hi] at proper
    exact proper

omit [DecidableEq ι] in
theorem Apart.find_input (h : Independent s files request upload)
    (hx : Apart s files request upload x) (hi : x.staged i = true) :
    x.pool.files.find s.processor.cwd ((upload i).inputPath s) = .ok (upload i).image := by
  rcases hx with hu | ⟨D, hD, -, hu⟩
  · exact absurd hi (by simp [hu.staged])
  · have image := hu.orderly.inputs i
    rw [if_pos hi] at image
    have located := hu.orderly.grown.locate_dir h.free hD
    have noLink (t : String) : x.pool.files.get? ((upload i).input D) ≠ some (.link t) := by
      rw [image, Upload.image]
      nofun
    have found := Files.locate_name located Upload.isName_inputName Upload.short_inputName noLink
      (hu.stored i hi).1
    rw [Files.find_eq_ok_iff]
    exact ⟨_, found.trans (by rw [← image]; rfl)⟩

/-- The service gives an upload that comes alone this response, unless that takes too long. -/
theorem Independent.respond_alone (h : Independent s files request upload) (i : ι) :
    (((upload i).exchange s files).respond (request i)).2 =
        s.alone files (upload i).id (request i) ∨
      (((upload i).exchange s files).respond (request i)).2 = Exchange.timedOut := by
  obtain ⟨y, steps, -, ends, -⟩ := @Traffic.respond_steps ι _ s request
    (fun i => (upload i).drawn) (.start ι s.workers files) ((upload i).exchange s files) i rfl rfl
    rfl rfl
  have apart := Apart.steps h steps (.inl (unready_start s.workers))
  rcases ends with answered | ⟨-, late⟩
  · exact .inl (apart.response answered)
  · exact .inr late

/-- Uploads that come at the same time do not interfere, in whatever order their steps and those of
the workers are taken. Their images and their outputs are all at different paths, and the program
is called with these. A response is the one that the upload gets when it comes alone, and a stored
image holds the octets of its upload for good. If no run is endless, no upload is stuck as long as
its client waits. -/
theorem Traffic.uploads_do_not_interfere (h : Independent s files request upload) (workers : Nat)
    (hx : Traffic.Steps s request (fun i => (upload i).drawn) (.start ι workers files) x) :
    (∀ i j, i ≠ j → (upload i).inputPath s ≠ (upload j).inputPath s ∧
      (upload i).outputPath s ≠ (upload j).outputPath s) ∧
    (∀ i j, (upload i).inputPath s ≠ (upload j).outputPath s) ∧
    (∀ c ∈ x.pool.calls, ∃ i tokens, x.ticket i = some c.ticket ∧ c.args =
      [(upload i).inputPath s, (upload i).submission.mlConfig, (upload i).outputPath s] ++
        tokens) ∧
    (∀ i response, x.stage i = .answered response →
      response = s.alone files (upload i).id (request i) ∧
        ((((upload i).exchange s files).respond (request i)).2 = response ∨
          (((upload i).exchange s files).respond (request i)).2 = Exchange.timedOut)) ∧
    (∀ i, x.staged i = true → x.pool.files.find s.processor.cwd ((upload i).inputPath s) =
      .ok (.file (upload i).submission.data defaultMode)) ∧
    (Pool.Halting s.processor → ∀ i, (∀ pending, x.stage i ≠ .away pending) →
      x.Answerable s request (fun i => (upload i).drawn) i) := by
  have apart : Apart s files request upload x := Apart.steps h hx (.inl (unready_start workers))
  have fits : x.Fits s request := hx.fits (Traffic.fits_start workers files)
  refine ⟨fun i j hij => ⟨fun e => hij ?_, fun e => hij ?_⟩, fun i j => ?_, fun c hc => ?_,
    fun i response hi => ?_, fun i hi => ?_, fun halts i hi => ?_⟩
  · exact h.distinct i j (Upload.inputPath_inj h.absolute e)
  · exact h.distinct i j (Upload.outputPath_inj h.absolute e)
  · exact Upload.inputPath_ne_outputPath h.absolute
  · exact apart.args_of_call h hc
  · rw [apart.response hi]
    exact ⟨rfl, h.respond_alone i⟩
  · exact apart.find_input h hi
  · exact fits.answerable halts hi

end

/-! ### Copies -/

/-- A program that copies its image to its output. -/
def copy (args : List String) (fs : Files) : Run :=
  match args with
  | input :: _ :: output :: _ =>
    match fs.find [] input with
    | .ok (.file data _) => ⟨(fs.write [] output data).1, .ok { code := some 0 }, some 1⟩
    | _ => ⟨fs, .ok { code := some 1 }, some 1⟩
  | _ => ⟨fs, .ok { code := some 2 }, some 1⟩

theorem duration_copy (args : List String) (fs : Files) : (copy args fs).duration = some 1 := by
  fun_cases copy args fs <;> rfl

theorem copy_eq (input config output : String) (tokens : List String) (fs : Files) :
    copy ([input, config, output] ++ tokens) fs = match fs.find [] input with
      | .ok (.file data _) => ⟨(fs.write [] output data).1, .ok { code := some 0 }, some 1⟩
      | _ => ⟨fs, .ok { code := some 1 }, some 1⟩ := rfl

section

variable {u : Upload} {ready fs : Files} {W : Place → Prop}
  (free : ∀ p, W p → ready.get? p = none)
  (hd : ready.locate [] s.uploads.path true = .ok ⟨D, some .dir⟩)

include free hd

/-- The image is copied, or one of the paths can never be used. -/
theorem copy_cases (config : String) (tokens : List String) : ∃ code,
    (∀ fs, u.Fresh ready W D fs → copy ([u.inputPath s, config, u.outputPath s] ++ tokens) fs =
      ⟨fs, .ok { code := some code }, some 1⟩) ∨
    ∀ fs, u.Fresh ready W D fs → copy ([u.inputPath s, config, u.outputPath s] ++ tokens) fs =
      ⟨fs.set (u.output D) u.image, .ok { code := some code }, some 1⟩ := by
  by_cases hi : Path.Usable (u.inputPath s)
  · have found (fs : Files) (hf : u.Fresh ready W D fs) :
        fs.find [] (u.inputPath s) = .ok u.image := by
      have image : fs.get? (u.inputName :: D) = some u.image := hf.image
      have noLink (t : String) : fs.get? (u.inputName :: D) ≠ some (.link t) := by
        rw [image, Upload.image]
        nofun
      have located := Files.locate_name (hf.grown.locate_dir free hd) Upload.isName_inputName
        Upload.short_inputName noLink hi
      rw [image] at located
      exact Files.find_eq_ok_iff.2 ⟨_, located⟩
    by_cases ho : Path.Usable (u.outputPath s)
    · refine ⟨0, .inr fun fs hf => ?_⟩
      have written : fs.write [] (u.outputPath s) u.submission.data =
          (fs.set (u.output D) u.image, .ok ()) :=
        Files.write_name (hf.grown.locate_dir free hd) Upload.isName_outputName
          Upload.short_outputName hf.vacant ho _
      rw [copy_eq, found fs hf]
      simp only [Upload.image] at written ⊢
      rw [written]
    · obtain ⟨e, refused⟩ := Files.write_of_not_usable ho
      refine ⟨0, .inl fun fs hf => ?_⟩
      rw [copy_eq, found fs hf]
      simp only [Upload.image]
      rw [refused]
  · obtain ⟨e, refused⟩ := Files.locate_of_not_usable hi
    refine ⟨1, .inl fun fs hf => ?_⟩
    rw [copy_eq, Files.find, refused]

theorem isolated_copy (hcwd : s.processor.cwd = []) (config : String) (tokens : List String) :
    Isolated s u ready W D (copy ([u.inputPath s, config, u.outputPath s] ++ tokens)) := by
  obtain ⟨code, run | run⟩ := copy_cases (u := u) free hd config tokens
  · refine .of_noLink free (hcwd ▸ hd) (fun fs hf p _ => ?_) (fun fs fs' hf hf' => ?_)
      fun fs hf t => ?_
    · rw [run fs hf]
    · rw [run fs hf, run fs' hf']
      exact ⟨rfl, hf'.vacant.trans hf.vacant.symm⟩
    · rw [run fs hf, hf.vacant]
      nofun
  · have put (fs : Files) : (fs.set (u.output D) u.image).get? (u.output D) = some u.image :=
      Files.get?_set_self _ _ (List.cons_ne_nil _ _)
    refine .of_noLink free (hcwd ▸ hd) (fun fs hf p hp => ?_) (fun fs fs' hf hf' => ?_)
      fun fs hf t => ?_
    · rw [run fs hf]
      exact Files.get?_set_of_ne _ _ hp
    · rw [run fs hf, run fs' hf']
      exact ⟨rfl, (put fs').trans (put fs).symm⟩
    · rw [run fs hf, put, Upload.image]
      nofun

end

/-- Such a program keeps what it does for uploads apart. -/
theorem independent_of_copy (hr : s.processor.runner.run = copy) (hcwd : s.processor.cwd = [])
    (absolute : Path.isAbsolute s.uploads.path = true)
    (demand : ∀ i, s.demand (request i) = .upload (upload i).submission)
    (distinct : ∀ i j, (upload i).id = (upload j).id → i = j)
    (unused : ∀ i name p, (upload i).id.toList <+: name.toList →
      (s.ready files).get? (name :: p) = none) : Independent s files request upload := by
  refine ⟨absolute, demand, distinct, unused, fun D hD i c hc => ?_⟩
  obtain ⟨tokens, ht⟩ := Service.valid_of_demand (demand i)
  have valid := Submission.prepare_place ht s.uploads (upload i).drawn
  have args : c.args = [(upload i).inputPath s, (upload i).submission.mlConfig,
      (upload i).outputPath s] ++ tokens :=
    congrArg Prepared.args (Except.ok.inj (hc.symm.trans valid))
  have free (p : Place) (hp : Owned upload D p) : (s.ready files).get? p = none := by
    rcases hp with ⟨j, rfl | rfl⟩
    · exact unused j _ _ Upload.id_prefix_inputName
    · exact unused j _ _ Upload.id_prefix_outputName
  rw [hr, args]
  exact isolated_copy free (hcwd ▸ hD) hcwd _ _

/-- The plain service with this program. -/
def copyService : Service :=
  { Exchange.plainService with processor := ⟨⟨"/build", fun _ => [], copy⟩, []⟩ }

/-- Two uploads of one form. -/
def twins (b : Bool) : Upload where
  submission := ⟨[120], .png, [], "m", none⟩
  drawn := b.toNat

/-- The image comes back, with the path of its copy. -/
def twinResponse (b : Bool) : Response where
  status := 200
  headers := [("content-type", "image/png"),
    ("x-kai-output-path", (twins b).outputPath copyService)]
  body := [120]

theorem alone_twins (b : Bool) :
    copyService.alone .empty (twins b).id Exchange.plainUpload = twinResponse b := by
  rw [Service.alone, Service.receive_of_upload _ _ (Exchange.demand_plainUpload rfl)]
  cases b <;> decide +kernel

theorem independent_twins :
    Independent copyService .empty (fun _ => Exchange.plainUpload) twins := by
  have ready : copyService.ready .empty = ⟨[(["uploads"], .dir)]⟩ := by decide +kernel
  refine independent_of_copy rfl rfl rfl (fun _ => Exchange.demand_plainUpload rfl)
    (by decide +kernel) fun b name p hp => ?_
  have ne : name ≠ "uploads" := by
    rintro rfl
    revert hp
    cases b <;> decide +kernel
  rw [ready]
  simp [Files.get?, ne]

/-- Both images come back, whichever of them is worked on first. -/
theorem Traffic.twins_do_not_interfere :
    Independent copyService .empty (fun _ => Exchange.plainUpload) twins ∧
      ∃ x : Traffic Bool,
        Traffic.Steps copyService (fun _ => Exchange.plainUpload) (fun b => (twins b).drawn)
          (.start Bool 2 .empty) x ∧ ∀ b, x.stage b = .answered (twinResponse b) := by
  have result {x : Traffic Bool}
      (hx : Traffic.Steps copyService (fun _ => Exchange.plainUpload) (fun b => (twins b).drawn)
        (.start Bool 2 .empty) x) := Traffic.uploads_do_not_interfere independent_twins 2 hx
  have halts : Pool.Halting copyService.processor := fun args fs => by
    simp [copyService, duration_copy]
  -- The second upload is answered first.
  obtain ⟨-, -, -, -, -, progress⟩ := result .refl
  obtain ⟨y, _, first, answered, same⟩ := progress halts true (by simp [Traffic.start])
  obtain ⟨-, -, -, -, -, progress⟩ := result first
  have arrived : y.stage false = .arrived := (same false (by decide)).1
  obtain ⟨x, _, second, answered', same'⟩ := progress halts false (by simp [arrived])
  have steps := first.trans second
  obtain ⟨-, -, -, alone, -, -⟩ := result steps
  refine ⟨independent_twins, x, steps, fun b => ?_⟩
  cases b with
  | false => rw [answered', (alone false _ answered').1, alone_twins]
  | true =>
    have answered := (same' true (by decide)).1.trans answered
    rw [answered, (alone true _ answered).1, alone_twins]

end ImageGateway.Http
