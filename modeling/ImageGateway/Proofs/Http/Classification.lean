import ImageGateway.Proofs.Http.Outcome
import ImageGateway.Proofs.RequestJson

/-!
How failures are told. A request to process an image by its path ends well, is refused as invalid
before anything is launched, or is blamed on the program, and never on the service
(`Exchange.path_cases`). What is wrong with a request or with a run of the program is told to the
client word for word (`Exchange.response_of_failsWith`), and a failure of the program to the log as
well (`Exchange.logs_of_502`). What is wrong with the service itself is told to the log only
(`Exchange.response_of_faults`).
-/

namespace ImageGateway

namespace Http

variable {s : Service} {r : Request} {q : ImageGateway.Request} {wanted : Reply}
  {f : Failure} {t : Trouble} {files : Files}

theorem Error.response_ofFailure (f : Failure) : (Error.ofFailure f).response =
    .plain (if f.isInvalidRequest then 400 else 502) f.message := by
  rw [Error.ofFailure]
  split <;> rfl

namespace Exchange

variable {x : Exchange}

/-! ## Failures -/

/-- The ways in which a request comes to a failure: an option of its form is unknown, the format of
its image is not found, its arguments are not valid, or the workers have come to it. -/
inductive FailsWith (s : Service) (x : Exchange) (r : Request) : Failure → Prop where
  | option {items front back : List Multipart.Item} {p : Multipart.Part} {form : Form} :
    s.Offers r items → items = front ++ .part p :: back → Form.ofItems front = .ok form →
    (Field.ofPart p).name = "options" → Flag.ofToken? (Text.trim (Field.ofPart p).text) = none →
    FailsWith s x r (.unknownOption (Text.trim (Field.ofPart p).text))
  | format {items : List Multipart.Item} {form : Form} {data : Bytes} {fileName : Option String}
    {f : Failure} :
    s.Offers r items → Form.ofItems items = .ok form → form.image = some (data, fileName) →
    Suffix.detect data fileName = .error f → FailsWith s x r f
  | arguments {items : List Multipart.Item} {form : Form} {data : Bytes}
    {fileName : Option String} {suffix : Suffix} {f : Failure} :
    s.Offers r items → Form.ofItems items = .ok form → form.image = some (data, fileName) →
    Suffix.detect data fileName = .ok suffix →
    checkArguments (form.mlConfig.getD "") form.options form.facialImgDir = .error f →
    FailsWith s x r f
  | answer {q : ImageGateway.Request} {wanted : Reply} {f : Failure} :
    (s.receive x.pool.files (Uuid.v4 x.drawn) r).2.1 = .work q wanted →
    (x.handle r).1.pool.answer? x.pool.tickets = some (.error f) → FailsWith s x r f

theorem ofItems_of_option {front back : List Multipart.Item} {p : Multipart.Part} {form : Form}
    (hfront : Form.ofItems front = .ok form) (hname : (Field.ofPart p).name = "options")
    (htoken : Flag.ofToken? (Text.trim (Field.ofPart p).text) = none) :
    Form.ofItems (front ++ .part p :: back) =
      .error (.ofFailure (.unknownOption (Text.trim (Field.ofPart p).text))) := by
  have added : form.addItem (.part p) =
      .error (.ofFailure (.unknownOption (Text.trim (Field.ofPart p).text))) := by
    rw [Form.addItem, Form.add, if_neg (by simp [hname]), if_pos hname]
    simp only [htoken]
  have rest : (Multipart.Item.part p :: back).foldlM Form.addItem form =
      .error (.ofFailure (.unknownOption (Text.trim (Field.ofPart p).text))) := by
    rw [List.foldlM_cons, added]
    rfl
  rw [Form.ofItems] at hfront ⊢
  rw [List.foldlM_append, hfront]
  exact rest

/-- The answer that a request gets is the one that the workers have for it. -/
theorem answer?_of_work (hx : x.service = s)
    (h : (s.receive x.pool.files (Uuid.v4 x.drawn) r).2.1 = .work q wanted) :
    (x.handle r).1.pool.answer? x.pool.tickets =
      ((x.received r).worked q).answer? x.pool.tickets := by
  obtain ⟨-, metrics, hpool⟩ := handle_of_work hx h
  rw [hpool]
  rfl

theorem response_of_refused {items : List Multipart.Item} (hx : x.service = s)
    (ho : s.Offers r items)
    (h : (Form.ofItems items).bind Form.submission = .error (.ofFailure f)) :
    (x.handle r).2 = .plain (if f.isInvalidRequest then 400 else 502) f.message := by
  have demand : s.demand r = .answered (Error.ofFailure f).response := by
    rw [ho.demand_eq, h]
    rfl
  have received : (s.receive x.pool.files (Uuid.v4 x.drawn) r).2.1 =
      .answered (Error.ofFailure f).response := by rw [Service.receive_of_answered _ _ demand]
  rw [(handle_of_answered hx received).2.2 ho.method, Error.response_ofFailure]

/-- A failure is told to the client as it is. -/
theorem response_of_failsWith (hx : x.service = s) (h : FailsWith s x r f) :
    (x.handle r).2 = .plain (if f.isInvalidRequest then 400 else 502) f.message := by
  cases h with
  | option ho hitems hfront hname htoken =>
    refine response_of_refused hx ho ?_
    rw [hitems, ofItems_of_option hfront hname htoken]
    rfl
  | format ho hform himage hsuffix =>
    refine response_of_refused hx ho ?_
    rw [hform]
    exact Form.submission_of_detect himage hsuffix
  | arguments ho hform himage hsuffix hargs =>
    refine response_of_refused hx ho ?_
    rw [hform]
    exact Form.submission_of_checkArguments himage hsuffix hargs
  | answer hwork hanswer =>
    rw [answer?_of_work hx hwork] at hanswer
    rw [(handle_of_work hx hwork).1, hanswer]
    exact Error.response_ofFailure f

/-! ## Failures of the program -/

/-- The reply to a failure blames the client or the program, and only in the second case is it told
to the log. -/
theorem logs_ofFailure (f : Failure) : (Error.ofFailure f).logs =
    if f.isInvalidRequest then [] else [⟨.error, "kai_demo::http::error", f.message, []⟩] := by
  rw [Error.ofFailure]
  split <;> rfl

/-- A failure of the program is told to the client, and once to the log. -/
theorem logs_of_502 (starts : s.processor.runner.Starts) (hx : x.service = s)
    (h : (x.handle r).2.status = 502) : ∃ f events, FailsWith s x r f ∧ f.OfRun ∧
      (x.handle r).1.pool.logs = x.pool.logs ++ events ∧
      events.filter (fun event => event.level = .error) =
        [⟨.error, "kai_demo::http::error", f.message, []⟩] ∧
      (x.handle r).2.body = Text.Utf8.encode f.message := by
  cases hreceive : (s.receive x.pool.files (Uuid.v4 x.drawn) r).2.1 with
  | answered response =>
    rw [(handle_of_answered hx hreceive).1] at h
    rcases Service.answered_cases hreceive with h500 | ⟨u, fs, t, logs, -, -, rfl⟩
    · omega
    · cases h
  | work q wanted =>
    obtain ⟨hresponse, metrics, hpool⟩ := handle_of_work hx hreceive
    obtain ⟨events, quiet, hlogs⟩ := logs_of_work starts hx hreceive
    have hanswer := answer?_of_work hx hreceive
    rw [hresponse] at h
    cases ha : ((x.received r).worked q).answer? x.pool.tickets with
    | none =>
      rw [ha] at h
      cases h
    | some answer =>
      rw [ha] at h hanswer hpool
      cases answer with
      | ok path =>
        cases wanted with
        | path => cases h
        | image =>
          rcases Service.status_sendImage s ((x.received r).worked q).files path with h' | h'
          · cases h'.symm.trans h
          · cases h'.symm.trans h
      | error f =>
        have valid : f.isInvalidRequest = false := by
          have status := (Service.status_of_failure f).symm.trans h
          by_contra hi
          rw [if_pos (by simpa using hi)] at status
          cases status
        have fails : FailsWith s x r f := .answer hreceive hanswer
        have response := response_of_failsWith hx fails
        refine ⟨f, events ++ (Error.ofFailure f).logs, fails, Failure.ofRun_iff.2 valid, ?_, ?_, ?_⟩
        · rw [hpool, ← List.append_assoc, ← hlogs]
          rfl
        · rw [List.filter_append, quiet.filter_error, logs_ofFailure, valid]
          rfl
        · rw [response]
          rfl

/-! ## Requests for a path -/

theorem launched_worked (hx : x.service = s) (sound : x.pool.Sound s.processor)
    (q : ImageGateway.Request) : (x.worked q).Launched x.pool.tickets q :=
  Pool.Steps.launched (worked_steps hx q) (sound.submit q) (Pool.Holds.of_submit sound q)
    (Pool.launched_submit sound q)

/-- An invalid request can only be answered with what is wrong with it. -/
theorem error_of_answers {p : Processor} {e : Failure} {answer : Except Failure String}
    (he : q.prepare = .error e) (h : Pool.Answers p q answer) : answer = .error e := by
  obtain ⟨before, after, rfl⟩ := h
  rw [Processor.attempt, he]
  rfl

theorem reply_path (s : Service) (fs : Files) (path : String) :
    (s.reply fs .path (.ok path)).1.status = 200 ∧
      Json.decodeBytes ImageGateway.Response.ofJson (s.reply fs .path (.ok path)).1.body =
        .ok ⟨path⟩ := by
  have body : (s.reply fs .path (.ok path)).1.body =
      Json.octets (ImageGateway.Response.toJson ⟨path⟩) := by
    rw [Json.octets, Service.reply, Response.typed]
  rw [body]
  exact ⟨rfl, ImageGateway.Response.decodeBytes_toJson ⟨path⟩⟩

/-- How the response to a request for the path of an output goes with the answer that the workers
have come to. -/
structure Settled (s : Service) (x : Exchange) (r : Request) (q : ImageGateway.Request)
    (answer : Except Failure String) : Prop where
  answered : (x.handle r).1.pool.answer? x.pool.tickets = some answer
  answers : Pool.Answers s.processor q answer
  ok_iff : (x.handle r).2.status = 200 ↔ ∃ path, answer = .ok path
  /-- The path of the output is in the response. -/
  output : ∀ path, answer = .ok path →
    Json.decodeBytes ImageGateway.Response.ofJson (x.handle r).2.body = .ok ⟨path⟩ ∧
      outputPath q.inputImagePath = .ok path
  invalid_iff : (x.handle r).2.status = 400 ↔ ∃ e, q.prepare = .error e
  not_called : (∃ e, q.prepare = .error e) → ¬ Called x (x.handle r).1
  /-- The program was called for the request, and has failed. -/
  failed_iff : (x.handle r).2.status = 502 ↔
    (∃ c ∈ (x.handle r).1.pool.calls, c.ticket = x.pool.tickets) ∧
      ∃ e, answer = .error e ∧ e.OfRun
  ne_internal : (x.handle r).2.status ≠ 500

theorem settled_of_invalid {e : Failure} (hprepare : q.prepare = .error e)
    (answered : (x.handle r).1.pool.answer? x.pool.tickets = some (.error e))
    (answers : Pool.Answers s.processor q (.error e)) (quiet : ¬ Called x (x.handle r).1)
    (status : (x.handle r).2.status = 400) : Settled s x r q (.error e) := by
  have invalid := Request.isInvalidRequest_of_prepare hprepare
  refine ⟨answered, answers, ?_, nofun, ?_, fun _ => quiet, ?_, by omega⟩
  · simp [status]
  · simp [status, hprepare]
  · simp [status, Failure.ofRun_iff, invalid]

theorem settled_of_valid {c : Prepared} {answer : Except Failure String}
    (starts : s.processor.runner.Starts) (hprepare : q.prepare = .ok c)
    (answered : (x.handle r).1.pool.answer? x.pool.tickets = some answer)
    (answers : Pool.Answers s.processor q answer)
    (called : ∃ c ∈ (x.handle r).1.pool.calls, c.ticket = x.pool.tickets) {fs : Files}
    (hresponse : (x.handle r).2 = (s.reply fs .path answer).1) : Settled s x r q answer := by
  cases answer with
  | ok path =>
    obtain ⟨status, body⟩ := reply_path s fs path
    rw [← hresponse] at status body
    have output : outputPath q.inputImagePath = .ok path := by
      rw [path_of_answers hprepare answers]
      exact (Request.prepare_eq_ok_iff.1 hprepare).1
    refine ⟨answered, answers, ?_, ?_, ?_, ?_, ?_, by omega⟩
    · simp [status]
    · rintro _ ⟨⟩
      exact ⟨body, output⟩
    · simp [status, hprepare]
    · simp [hprepare]
    · simp [status]
  | error e =>
    have valid := Pool.valid_of_answers starts.isInvalidRequest_eq hprepare answers
    have status : (x.handle r).2.status = 502 := by
      rw [hresponse]
      exact (Service.status_of_failure e).trans (if_neg (by simp [valid]))
    refine ⟨answered, answers, ?_, nofun, ?_, ?_, ?_, by omega⟩
    · simp [status]
    · simp [status, hprepare]
    · simp [hprepare]
    · simp [status, called, Failure.ofRun_iff, valid]

/-- A request to process an image by its path is settled, unless its client was sent away. -/
theorem settled_of_path (starts : s.processor.runner.Starts) (hx : x.service = s)
    (sound : x.pool.Sound s.processor) (hd : s.demand r = .work q .path)
    (waited : (x.handle r).2.status ≠ 408) : ∃ answer, Settled s x r q answer := by
  have received := (received_service x r).trans hx
  have soundReceived := Pool.Changes.sound (received_changes s.processor x r) sound
  have hwork : (s.receive x.pool.files (Uuid.v4 x.drawn) r).2.1 = .work q .path := by
    rw [Service.receive_of_work _ _ hd]
  obtain ⟨hresponse, metrics, hpool⟩ := handle_of_work hx hwork
  have hanswer := answer?_of_work hx hwork
  have holds := Pool.Steps.holds (worked_steps received q) (Pool.Holds.of_submit soundReceived q)
  have launched := launched_worked received soundReceived q
  cases ha : ((x.received r).worked q).answer? x.pool.tickets with
  | none =>
    rw [hresponse, ha] at waited
    exact absurd rfl waited
  | some answer =>
    rw [ha] at hresponse hanswer
    have answers := holds.answers ha
    obtain ⟨fs, hresponse⟩ : ∃ fs, (x.handle r).2 = (s.reply fs .path answer).1 :=
      ⟨((x.received r).worked q).files, hresponse⟩
    cases hprepare : q.prepare with
    | error e =>
      obtain rfl := error_of_answers hprepare answers
      refine ⟨_, settled_of_invalid hprepare hanswer answers (fun called => ?_) ?_⟩
      · obtain ⟨c, hc⟩ := prepare_of_called soundReceived (handle_work hx (by rw [hx, hwork])).1 hx
          called
        cases hprepare.symm.trans hc
      · rw [hresponse]
        exact (Service.status_of_failure e).trans
          (if_pos (Request.isInvalidRequest_of_prepare hprepare))
    | ok c =>
      have past := (Pool.mem_past_of_answer? ha).1
      obtain ⟨before, call⟩ := launched (Pool.past_subset_begun past) c hprepare
      have called : ∃ c ∈ (x.handle r).1.pool.calls, c.ticket = x.pool.tickets := by
        rw [hpool]
        exact ⟨_, call, rfl⟩
      exact ⟨answer, settled_of_valid starts hprepare hanswer answers called hresponse⟩

/-! ## Failures of the service -/

/-- The ways in which the service itself fails: the image of an upload cannot be stored, or the
output image cannot be read. -/
inductive Faults (s : Service) (x : Exchange) (r : Request) : Trouble → Prop where
  | store {u : Submission} {fs : Files} {t : Trouble} {logs : List Log.Event} :
    s.demand r = .upload u →
    s.uploads.store s.processor.cwd x.pool.files (Uuid.v4 x.drawn) u.suffix.text u.data =
      (fs, .error t, logs) → Faults s x r t
  | read {q : ImageGateway.Request} {path : String} {t : Trouble} :
    (s.receive x.pool.files (Uuid.v4 x.drawn) r).2.1 = .work q .image →
    (x.handle r).1.pool.answer? x.pool.tickets = some (.ok path) →
    UploadStore.read s.processor.cwd (x.handle r).1.pool.files (s.processor.resolve path) =
      .error t → Faults s x r t

/-- What is wrong with the service is told to the log, and the client learns nothing of it. -/
theorem response_of_faults (starts : s.processor.runner.Starts) (hx : x.service = s)
    (h : Faults s x r t) : (x.handle r).2 = .plain 500 "Internal server error" ∧
      ∃ events event, (x.handle r).1.pool.logs = x.pool.logs ++ events ∧ event ∈ events ∧
        event.level = .error ∧ event.message = "internal server error: " ++ t.head := by
  cases h with
  | @store u fs t logs hd hstore =>
    have receive := Service.receive_of_store hd hstore
    obtain ⟨-, hlogs, hresponse⟩ := handle_of_answered hx (congrArg (·.2.1) receive)
    rw [receive] at hlogs
    exact ⟨hresponse (Service.method_of_upload hd), _, _, hlogs,
      List.mem_append_right _ List.mem_cons_self, rfl, rfl⟩
  | @read q path t hwork hanswer hread =>
    obtain ⟨hresponse, metrics, hpool⟩ := handle_of_work hx hwork
    obtain ⟨events, quiet, hlogs⟩ := logs_of_work starts hx hwork
    have hfiles : (x.handle r).1.pool.files = ((x.received r).worked q).files := by rw [hpool]
    rw [answer?_of_work hx hwork] at hanswer
    rw [hfiles] at hread
    rw [hanswer] at hresponse hpool
    obtain ⟨sent, told, htold⟩ := Service.sendImage_of_error hread
    refine ⟨hresponse.trans sent, events ++ (told ++ (Error.internal t.head).logs), _, ?_,
      List.mem_append_right _ (List.mem_append_right _ List.mem_cons_self), rfl, rfl⟩
    rw [hpool, ← List.append_assoc, ← hlogs, ← htold]
    rfl

/-- The service fails in these ways only, but for an output path that cannot be put into a
header. -/
theorem faults_of_500 (hx : x.service = s) (h : (x.handle r).2.status = 500) :
    (∃ t, Faults s x r t) ∨ (x.handle r).2 = .plain 500 "failed to parse header value" := by
  cases hreceive : (s.receive x.pool.files (Uuid.v4 x.drawn) r).2.1 with
  | answered response =>
    rw [(handle_of_answered hx hreceive).1] at h
    rcases Service.answered_cases hreceive with h' | ⟨u, fs, t, logs, hd, hstore, -⟩
    · omega
    · exact .inl ⟨t, .store hd hstore⟩
  | work q wanted =>
    obtain ⟨hresponse, metrics, hpool⟩ := handle_of_work hx hreceive
    have hanswer := answer?_of_work hx hreceive
    have hfiles : (x.handle r).1.pool.files = ((x.received r).worked q).files := by rw [hpool]
    cases ha : ((x.received r).worked q).answer? x.pool.tickets with
    | none =>
      rw [hresponse, ha] at h
      cases h
    | some answer =>
      rw [ha] at hanswer hresponse
      cases answer with
      | error f =>
        rw [hresponse] at h
        have status := (Service.status_of_failure f).symm.trans h
        split at status <;> cases status
      | ok path =>
        cases wanted with
        | path =>
          rw [hresponse] at h
          cases h
        | image =>
          cases hread : UploadStore.read s.processor.cwd ((x.received r).worked q).files
              (s.processor.resolve path) with
          | error t => exact .inl ⟨t, .read hreceive hanswer (by rw [hfiles, hread])⟩
          | ok data =>
            have sent : (x.handle r).2 = (s.sendImage ((x.received r).worked q).files path).1 :=
              hresponse
            rcases Service.sendImage_of_ok hread with hsent | hsent
            · rw [sent, hsent] at h
              cases h
            · exact .inr (sent.trans hsent)

/-- How every request is told what has become of it. A request to process an image by its path is
settled as `Settled` says, unless its client was sent away. Wherever a failure comes from, the
client gets its text, as a bad request or as a failure of the program; and a failure of the program
makes one error in the log, with that same text. If the service itself fails, or that of another
client, both clients get the same response, and the log has the details. -/
theorem failures_told (starts : s.processor.runner.Starts) (hx : History (create s files) x)
    (r : Request) :
    (∀ q, s.demand r = .work q .path → (x.handle r).2.status ≠ 408 →
      ∃ answer, Settled s x r q answer) ∧
    (∀ f, FailsWith s x r f →
      (x.handle r).2 = .plain (if f.isInvalidRequest then 400 else 502) f.message) ∧
    ((x.handle r).2.status = 502 → ∃ f events, FailsWith s x r f ∧ f.OfRun ∧
      (x.handle r).1.pool.logs = x.pool.logs ++ events ∧
      events.filter (fun event => event.level = .error) =
        [⟨.error, "kai_demo::http::error", f.message, []⟩] ∧
      (x.handle r).2.body = Text.Utf8.encode f.message) ∧
    ((x.handle r).2.status = 500 →
      (∃ t, Faults s x r t) ∨ (x.handle r).2 = .plain 500 "failed to parse header value") ∧
    (∀ t, Faults s x r t → ∃ events event, (x.handle r).1.pool.logs = x.pool.logs ++ events ∧
      event ∈ events ∧ event.level = .error ∧
        event.message = "internal server error: " ++ t.head) ∧
    ∀ s' files' x' r' t t', s'.processor.runner.Starts → History (create s' files') x' →
      Faults s x r t → Faults s' x' r' t' →
      (x.handle r).2.status = 500 ∧ (x.handle r).2 = (x'.handle r').2 := by
  obtain ⟨sound, service⟩ := hx.sound
  refine ⟨fun q hd waited => settled_of_path starts service sound hd waited,
    fun f => response_of_failsWith service, logs_of_502 starts service, faults_of_500 service,
    fun t h => (response_of_faults starts service h).2, ?_⟩
  intro s' files' x' r' t t' starts' hx' h h'
  have response := (response_of_faults starts service h).1
  have response' := (response_of_faults starts' hx'.sound.2 h').1
  rw [response, response']
  exact ⟨rfl, rfl⟩

/-! ### A program that is missing -/

/-- The request of the small upload, handed in where there is no image program. -/
theorem plainWork_without_program :
    let x := create plainService .empty
    (x.handle plainWorkRequest).2.status = 502 ∧
      ∃ f events, FailsWith plainService x plainWorkRequest f ∧ f.OfRun ∧
        (x.handle plainWorkRequest).1.pool.logs = x.pool.logs ++ events ∧
        events.filter (fun event => event.level = .error) =
          [⟨.error, "kai_demo::http::error", f.message, []⟩] ∧
        (x.handle plainWorkRequest).2.body = Text.Utf8.encode f.message := by
  have status : ((create plainService .empty).handle plainWorkRequest).2.status = 502 := by
    decide +kernel
  exact ⟨status, (failures_told (Program.starts_runner _) .refl plainWorkRequest).2.2.1 status⟩

end Exchange

end Http

end ImageGateway
