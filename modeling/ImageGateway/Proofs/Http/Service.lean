import ImageGateway.Http.Service
import ImageGateway.Proofs.Pool.Records
import ImageGateway.Proofs.Uploads

/-!
What the service decides for one request. An image that is to be stored comes with valid arguments
(`Service.valid_of_demand`), and once it is stored its request is valid as a whole
(`Submission.prepare_place`). A service that was set up from a configuration knows its directory
for uploads by an absolute path (`Service.isAbsolute_uploads`), and runs of its image program fail
only if the program cannot be started (`Service.starts_of_create`).
-/

namespace ImageGateway

theorem Program.launch_of_run_error {program : Program} {args : List String} {fs : Files}
    {e : Failure} (h : (program.run args fs).answer = .error e) :
    ∃ path cause, e = .launch path cause := by
  unfold Program.run at h
  split at h
  · cases h
    exact ⟨_, _, rfl⟩
  · split at h
    · cases h
      exact ⟨_, _, rfl⟩
    · split at h
      · cases h
        exact ⟨_, _, rfl⟩
      · cases h

theorem Program.starts_runner (program : Program) : program.runner.Starts where
  launch _ _ _ h := launch_of_run_error h
  quiet _ := by simp [Program.runner, Program.announce, Log.Quiet]

namespace Http

variable {s : Service} {runner : Program → Runner} {cwd : Place} {cwdPath : String}
  {config : Config} {fs fs' : Files} {r : Request} {u : Submission} {n : Nat} {id : String}

/-! ## The start -/

namespace Service

/-- A service is put together from a program and a directory for uploads. -/
theorem of_setUp (h : (setUp runner cwd cwdPath config).1 = .ok s) : ∃ program uploads,
    Program.create cwdPath config.program.workingDir config.program.executable = .ok program ∧
      UploadStore.create cwdPath config.uploadsPath = .ok uploads ∧
      assemble ⟨runner program, cwd⟩ uploads config = .ok s := by
  rw [setUp] at h
  split at h
  · cases h
  · rename_i program hp
    dsimp only at h
    split at h
    · cases h
    · rename_i uploads hu
      exact ⟨program, uploads, hp, hu, h⟩

theorem setUp_of_created {program : Program} {uploads : UploadStore}
    (hp : Program.create cwdPath config.program.workingDir config.program.executable = .ok program)
    (hu : UploadStore.create cwdPath config.uploadsPath = .ok uploads) :
    (setUp runner cwd cwdPath config).1 = assemble ⟨runner program, cwd⟩ uploads config := by
  rw [setUp, hp]
  dsimp only
  rw [hu]

theorem of_assemble {processor : Processor} {uploads : UploadStore}
    (h : assemble processor uploads config = .ok s) :
    s.processor = processor ∧ s.uploads = uploads ∧
      limit? config.app.maxBodySizeMb = some s.bodyLimit := by
  rw [assemble] at h
  split at h
  · cases h
  · rename_i limit hl
    cases h
    exact ⟨rfl, rfl, hl⟩

/-- Runs fail as those of the image program do. -/
theorem starts_of_setUp (starts : ∀ program, (runner program).Starts)
    (h : (setUp runner cwd cwdPath config).1 = .ok s) : s.processor.runner.Starts := by
  obtain ⟨program, uploads, -, -, made⟩ := of_setUp h
  rw [(of_assemble made).1]
  exact starts program

theorem starts_of_create (h : (create cwd cwdPath config).1 = .ok s) :
    s.processor.runner.Starts :=
  starts_of_setUp Program.starts_runner h

/-- The directory for uploads is known by an absolute path. -/
theorem isAbsolute_uploads (h : (setUp runner cwd cwdPath config).1 = .ok s)
    (hc : Path.isAbsolute cwdPath = true) : Path.isAbsolute s.uploads.path = true := by
  obtain ⟨program, uploads, -, hu, made⟩ := of_setUp h
  rw [(of_assemble made).2.1]
  exact UploadStore.isAbsolute_of_create hu hc

end Service

/-! ## Submissions -/

/-- The arguments of a submission are valid, and these are the tokens they stand for. -/
def Submission.Tokens (u : Submission) (tokens : List String) : Prop :=
  checkArguments u.mlConfig u.options u.facialImgDir = .ok tokens

theorem Form.submission_eq_ok_iff {form : Form} : form.submission = .ok u ↔
    ∃ fileName tokens, form.image = some (u.data, fileName) ∧
      Suffix.detect u.data fileName = .ok u.suffix ∧ u.Tokens tokens ∧
      u.options = form.options ∧ u.mlConfig = form.mlConfig.getD "" ∧
      u.facialImgDir = form.facialImgDir := by
  obtain ⟨image, options, mlConfig, dir⟩ := form
  obtain ⟨data, suffix, uOptions, uConfig, uDir⟩ := u
  cases image with
  | none => simp [submission, throw, throwThe, MonadExceptOf.throw]
  | some image =>
    obtain ⟨d, fileName⟩ := image
    simp only [submission, bind_eq_ok_iff, mapError_eq_ok_iff, pure, Except.pure, Except.ok.injEq,
      Option.some.injEq, Prod.mk.injEq, Submission.mk.injEq, Submission.Tokens]
    constructor
    · rintro ⟨e, he, tokens, ht, rfl, rfl, rfl, rfl, rfl⟩
      exact ⟨fileName, tokens, ⟨rfl, rfl⟩, he, ht, rfl, rfl, rfl⟩
    · rintro ⟨_, tokens, ⟨rfl, rfl⟩, he, ht, rfl, rfl, rfl⟩
      exact ⟨suffix, he, tokens, ht, rfl, rfl, rfl, rfl, rfl⟩

/-- Once the image of a submission is stored, its request is valid. -/
theorem Submission.prepare_place {tokens : List String} (h : u.Tokens tokens) (s : UploadStore)
    (n : Nat) :
    (u.request (s.place (Uuid.v4 n) u.suffix.text)).prepare = .ok
      ⟨Path.join s.path (UploadStore.outputName n u.suffix), tokens,
        [s.place (Uuid.v4 n) u.suffix.text, u.mlConfig,
          Path.join s.path (UploadStore.outputName n u.suffix)] ++ tokens⟩ := by
  simp only [Request.prepare_eq_ok_iff, Submission.request, and_true]
  exact ⟨s.outputPath_place n u.suffix, h⟩

namespace Service

/-! ## Receiving -/

theorem readSubmission_of_demand (h : s.demand r = .upload u) : s.readSubmission r = .ok u := by
  rw [demand] at h
  split at h
  · cases h
  · split at h
    · cases h
    · split at h
      · split at h <;> cases h
      · split at h
        · cases h
        · cases h
          assumption
      · cases h

/-- An image is to be stored only if the arguments that came with it are valid. -/
theorem valid_of_demand (h : s.demand r = .upload u) : ∃ tokens, u.Tokens tokens := by
  have hr := readSubmission_of_demand h
  rw [readSubmission] at hr
  split at hr
  · cases hr
  · obtain ⟨form, -, hu⟩ := bind_eq_ok_iff.1 (mapError_eq_ok_iff.1 hr)
    obtain ⟨-, tokens, -, -, ht, -⟩ := Form.submission_eq_ok_iff.1 hu
    exact ⟨tokens, ht⟩

/-- An image is stored at its place, or the request is answered with an internal error. -/
theorem stage_cases (s : Service) (fs : Files) (id : String) (u : Submission) :
    (∃ fs' logs, s.stage fs id u =
      (fs', .work (u.request (s.uploads.place id u.suffix.text)) .image, logs)) ∨
    ∃ fs' response logs, s.stage fs id u = (fs', .answered response, logs) ∧
      response.status = 500 := by
  rw [stage]
  split
  · rename_i fs' path logs hs
    obtain ⟨rfl, -⟩ := UploadStore.store_cases hs
    exact .inl ⟨_, _, rfl⟩
  · exact .inr ⟨_, _, _, rfl, rfl⟩

/-! ## What is received -/

section receive

variable (fs : Files) (id : String)

theorem receive_of_answered {response : Response} (h : s.demand r = .answered response) :
    s.receive fs id r = (fs, .answered response, []) := by
  rw [receive, h]

theorem receive_of_work {q : ImageGateway.Request} {wanted : Reply}
    (h : s.demand r = .work q wanted) : s.receive fs id r = (fs, .work q wanted, []) := by
  rw [receive, h]

/-- Only for an upload something is done to the files. -/
theorem receive_of_upload (h : s.demand r = .upload u) : s.receive fs id r = s.stage fs id u := by
  rw [receive, h]

end receive

/-! ## Replies -/

theorem status_of_failure (e : Failure) :
    (Error.ofFailure e).response.status = if e.isInvalidRequest then 400 else 502 := by
  rw [Error.ofFailure]
  split <;> rfl

theorem status_sendImage (s : Service) (fs : Files) (path : String) :
    (s.sendImage fs path).1.status = 200 ∨ (s.sendImage fs path).1.status = 500 := by
  unfold sendImage
  simp only
  split
  · exact .inr rfl
  · split
    · exact .inl rfl
    · exact .inr rfl

theorem reply_error (s : Service) (fs : Files) (wanted : Reply) (e : Failure) :
    s.reply fs wanted (.error e) =
      ((Error.ofFailure e).response, (Error.ofFailure e).logs) := rfl

theorem reply_image (s : Service) (fs : Files) (path : String) :
    s.reply fs .image (.ok path) = s.sendImage fs path := rfl

/-- An image is sent as it is found at the place of the path. -/
theorem sendImage_congr {path : String}
    (h : fs.find s.processor.cwd (s.processor.resolve path) =
      fs'.find s.processor.cwd (s.processor.resolve path)) :
    s.sendImage fs path = s.sendImage fs' path := by
  unfold sendImage
  simp only [UploadStore.read, h]

/-- A reply is an image or a path, or it tells of a failure. -/
theorem status_reply (s : Service) (fs : Files) (wanted : Reply)
    (answer : Except Failure String) :
    (∃ e, answer = .error e ∧
      (s.reply fs wanted answer).1.status = if e.isInvalidRequest then 400 else 502) ∨
    (s.reply fs wanted answer).1.status = 200 ∨ (s.reply fs wanted answer).1.status = 500 := by
  cases answer with
  | error e => exact .inl ⟨e, rfl, status_of_failure e⟩
  | ok path =>
    cases wanted with
    | path => exact .inr (.inl rfl)
    | image => exact .inr (status_sendImage s fs path)

end Service

end Http

end ImageGateway
