import ImageGateway.Proofs.Http.Endpoints
import ImageGateway.Proofs.Pool.Records
import ImageGateway.Proofs.Validation

/-!
What a request comes to, response and log together. A request that is answered when it is received
is never blamed on the program (`Service.status_of_answered`). One that is worked on gets the reply
to its answer, unless there is none in time (`Exchange.handle_of_work`), and the log grows by what
is said with that reply and by events that are no errors (`Exchange.logs_of_work`).
-/

namespace ImageGateway.Http

variable {s : Service} {fs : Files} {id : String} {r : Request} {q : ImageGateway.Request}
  {wanted : Reply} {u : Submission} {response : Response} {e : Error}

/-! ## Forms -/

theorem exists_badRequest {f : Failure} (h : f.isInvalidRequest = true) :
    Error.ofFailure f = .badRequest f.message := if_pos h

namespace Form

variable {form : Form} {items : List Multipart.Item}

theorem badRequest_of_add {f : Field} (h : form.add f = .error e) :
    ∃ text, e = .badRequest text := by
  rw [add] at h
  split at h
  · cases h
  · split at h
    · dsimp only at h
      split at h
      · cases h
      · cases h
        exact ⟨_, exists_badRequest rfl⟩
    · split at h
      · cases h
      · split at h <;> cases h

theorem badRequest_of_addItem {item : Multipart.Item} (h : form.addItem item = .error e) :
    ∃ text, e = .badRequest text := by
  cases item with
  | part p => exact badRequest_of_add h
  | broken =>
    cases h
    exact ⟨_, rfl⟩

/-- Whatever is wrong with a form, the client is told. -/
theorem badRequest_of_ofItems (h : ofItems items = .error e) : ∃ text, e = .badRequest text := by
  rw [ofItems] at h
  generalize ({} : Form) = form at h
  induction items generalizing form with
  | nil => cases h
  | cons item items ih =>
    rw [List.foldlM_cons] at h
    rcases bind_eq_error_iff.1 h with h | ⟨form, -, h⟩
    · exact badRequest_of_addItem h
    · exact ih form h

theorem submission_of_detect {data : Bytes} {fileName : Option String} {f : Failure}
    (himage : form.image = some (data, fileName)) (h : Suffix.detect data fileName = .error f) :
    form.submission = .error (.ofFailure f) := by
  rw [submission, himage]
  simp only [h]
  rfl

theorem submission_of_checkArguments {data : Bytes} {fileName : Option String} {suffix : Suffix}
    {f : Failure} (himage : form.image = some (data, fileName))
    (hsuffix : Suffix.detect data fileName = .ok suffix)
    (h : checkArguments (form.mlConfig.getD "") form.options form.facialImgDir = .error f) :
    form.submission = .error (.ofFailure f) := by
  rw [submission, himage]
  simp only [hsuffix, h]
  rfl

theorem invalid_of_detect {data : Bytes} {fileName : Option String} {f : Failure}
    (h : Suffix.detect data fileName = .error f) : f.isInvalidRequest = true := by
  rw [Suffix.detect] at h
  split at h
  · cases h
  · dsimp only at h
    split at h <;> cases h
    rfl

theorem badRequest_of_submission (h : form.submission = .error e) :
    ∃ text, e = .badRequest text := by
  cases himage : form.image with
  | none =>
    rw [submission, himage] at h
    cases h
    exact ⟨_, rfl⟩
  | some image =>
    obtain ⟨data, fileName⟩ := image
    cases hsuffix : Suffix.detect data fileName with
    | error f =>
      cases (submission_of_detect himage hsuffix).symm.trans h
      exact ⟨_, exists_badRequest (invalid_of_detect hsuffix)⟩
    | ok suffix =>
      cases hargs : checkArguments (form.mlConfig.getD "") form.options form.facialImgDir with
      | error f =>
        cases (submission_of_checkArguments himage hsuffix hargs).symm.trans h
        exact ⟨_, exists_badRequest (isInvalidRequest_of_checkArguments hargs)⟩
      | ok tokens =>
        rw [submission, himage] at h
        simp only [hsuffix, hargs] at h
        cases h

end Form

namespace Service

/-! ## Receiving -/

theorem status_of_readRequest (h : s.readRequest r = .error response) : response.status < 500 := by
  rw [readRequest] at h
  split at h
  · split at h
    · cases h
      decide
    · split at h
      · cases h
      · cases h
        decide
      · cases h
        exact (by decide : 422 < 500)
  · cases h
    decide

theorem status_of_readSubmission (h : s.readSubmission r = .error response) :
    response.status < 500 := by
  rw [readSubmission] at h
  split at h
  · cases h
    decide
  · rename_i boundary _
    cases hform : (Form.ofItems (formItems s.bodyLimit boundary r.body)).bind Form.submission with
    | ok u =>
      rw [hform] at h
      cases h
    | error e =>
      rw [hform] at h
      cases h
      obtain ⟨text, rfl⟩ : ∃ text, e = .badRequest text := by
        rcases bind_eq_error_iff.1 hform with h | ⟨form, -, h⟩
        · exact Form.badRequest_of_ofItems h
        · exact Form.badRequest_of_submission h
      exact (by decide : 400 < 500)

theorem status_shown (route : Route) : (shown route).status = 200 := by cases route <;> rfl

/-- What is answered when it is received is no fault of the service or of the program. -/
theorem status_of_answered (h : s.demand r = .answered response) : response.status < 500 := by
  rw [Service.demand] at h
  split at h
  · cases h
    decide
  · split at h
    · cases h
      exact (by decide : 405 < 500)
    · split at h
      · split at h
        · cases h
          exact status_of_readRequest (by assumption)
        · cases h
      · split at h
        · cases h
          exact status_of_readSubmission (by assumption)
        · cases h
      · rw [← Demand.answered.inj h, status_shown]
        decide

theorem post_of_receive (h : (s.receive fs id r).2.1 = .work q wanted) : r.method = "POST" := by
  cases hd : s.demand r with
  | answered response =>
    rw [receive_of_answered fs id hd] at h
    cases h
  | work => exact method_of_work hd
  | upload => exact method_of_upload hd

theorem quiet_receive (h : (s.receive fs id r).2.1 = .work q wanted) :
    Log.Quiet (s.receive fs id r).2.2 := by
  rw [receive] at h ⊢
  split at h
  · cases h
  · exact Log.quiet_nil
  · rw [stage] at h ⊢
    split at h
    · rename_i hstore
      rw [UploadStore.store] at hstore
      split at hstore
      · cases hstore
      · split at hstore
        · cases hstore
        · cases hstore
          simp [Log.Quiet]
    · cases h

/-- An upload that cannot be stored. -/
theorem receive_of_store {fs' : Files} {t : Trouble} {logs : List Log.Event}
    (hd : s.demand r = .upload u)
    (h : s.uploads.store s.processor.cwd fs id u.suffix.text u.data = (fs', .error t, logs)) :
    s.receive fs id r =
      (fs', .answered (Error.internal t.head).response, logs ++ (Error.internal t.head).logs) := by
  rw [receive_of_upload fs id hd]
  simp only [stage, h]

/-- A response at once is as good as told from the request alone, or an upload could not be
stored. -/
theorem answered_cases (h : (s.receive fs id r).2.1 = .answered response) :
    response.status < 500 ∨ ∃ u fs' t logs, s.demand r = .upload u ∧
      s.uploads.store s.processor.cwd fs id u.suffix.text u.data = (fs', .error t, logs) ∧
      response = (Error.internal t.head).response := by
  cases hd : s.demand r with
  | answered response' =>
    rw [receive_of_answered fs id hd] at h
    cases h
    exact .inl (status_of_answered hd)
  | work q wanted =>
    rw [receive_of_work fs id hd] at h
    cases h
  | upload u =>
    cases hstore : s.uploads.store s.processor.cwd fs id u.suffix.text u.data with
    | mk fs' rest =>
      obtain ⟨answer, logs⟩ := rest
      cases answer with
      | ok path =>
        rw [receive_of_upload fs id hd] at h
        simp only [stage, hstore] at h
        cases h
      | error t =>
        rw [receive_of_store hd hstore] at h
        cases h
        exact .inr ⟨u, fs', t, logs, rfl, hstore, rfl⟩

/-! ## Replies -/

/-- What a client gets, and what is logged with it, when the workers have an answer for it or have
none in time. -/
def outcome (s : Service) (fs : Files) (wanted : Reply) :
    Option (Except Failure String) → Response × List Log.Event
  | none => (Exchange.timedOut, [])
  | some answer => s.reply fs wanted answer

/-- An image that cannot be read is reported to the log only. -/
theorem sendImage_of_error {path : String} {t : Trouble}
    (h : UploadStore.read s.processor.cwd fs (s.processor.resolve path) = .error t) :
    (s.sendImage fs path).1 = (Error.internal t.head).response ∧
      ∃ events, (s.sendImage fs path).2 = events ++ (Error.internal t.head).logs := by
  unfold sendImage
  simp only [h]
  exact ⟨trivial, [_], rfl⟩

/-- An image that is read is sent, if its path can be. -/
theorem sendImage_of_ok {path : String} {data : Bytes}
    (h : UploadStore.read s.processor.cwd fs (s.processor.resolve path) = .ok data) :
    (s.sendImage fs path).1.status = 200 ∨
      (s.sendImage fs path).1 = .plain 500 "failed to parse header value" := by
  unfold sendImage
  simp only [h]
  split
  · exact .inl rfl
  · exact .inr rfl

end Service

namespace Exchange

variable {x : Exchange}

/-- A request that is worked on gets the outcome of the work. -/
theorem handle_of_work (hx : x.service = s)
    (h : (s.receive x.pool.files (Uuid.v4 x.drawn) r).2.1 = .work q wanted) :
    let w := (x.received r).worked q
    let outcome := s.outcome w.files wanted (w.answer? x.pool.tickets)
    (x.handle r).2 = outcome.1 ∧
      ∃ metrics, (x.handle r).1.pool = { w with logs := w.logs ++ outcome.2, metrics } := by
  subst hx
  have hrespond := respond_of_work h
  have tickets : (x.received r).pool.tickets = x.pool.tickets := rfl
  have counted : (x.handle r).1.pool =
      { (x.respond r).1.pool with metrics := (x.handle r).1.pool.metrics } := rfl
  rw [handle_of_post (Service.post_of_receive h), counted, hrespond, perform_eq, tickets]
  dsimp only
  cases ((x.received r).worked q).answer? x.pool.tickets with
  | none =>
    refine ⟨rfl, (x.handle r).1.pool.metrics, ?_⟩
    rw [Service.outcome, List.append_nil]
  | some answer => exact ⟨rfl, _, rfl⟩

/-- Until its reply nothing that is logged for a request that is worked on is an error. -/
theorem logs_of_work (starts : s.processor.runner.Starts) (hx : x.service = s)
    (h : (s.receive x.pool.files (Uuid.v4 x.drawn) r).2.1 = .work q wanted) :
    ∃ events, Log.Quiet events ∧ ((x.received r).worked q).logs = x.pool.logs ++ events := by
  subst hx
  obtain ⟨events, hevents, quiet⟩ := Pool.noted_workFor starts
    ((x.received r).pool.now + x.service.patience)
    (fun pool => (pool.answer? x.pool.tickets).isSome) ((x.received r).pool.submit q).effort
    ((x.received r).pool.submit q)
  refine ⟨_, (Service.quiet_receive h).append quiet, hevents.trans ?_⟩
  exact List.append_assoc _ _ _

/-- A request that is answered at once gets that response, and the log what goes with it. -/
theorem handle_of_answered (hx : x.service = s)
    (h : (s.receive x.pool.files (Uuid.v4 x.drawn) r).2.1 = .answered response) :
    (x.handle r).2.status = response.status ∧
      (x.handle r).1.pool.logs =
        x.pool.logs ++ (s.receive x.pool.files (Uuid.v4 x.drawn) r).2.2 ∧
      (r.method = "POST" → (x.handle r).2 = response) := by
  subst hx
  have hrespond := respond_of_answered h
  have status := (handle_spec x.service.processor x r).2.2.2
  rw [hrespond] at status
  refine ⟨status, ?_, fun post => ?_⟩
  · rw [handle, hrespond]
    rfl
  · rw [handle_of_post post, hrespond]

end Exchange

end ImageGateway.Http
