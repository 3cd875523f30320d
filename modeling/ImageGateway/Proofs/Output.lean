import ImageGateway.Proofs.Processing

/-!
Which run an output belongs to. After a run with exit code zero it is judged by the files alone
whether there is an output. Where no regular file was at its place before, this tells what the run
did: a success means that the run put the file there, and a run that leaves the place as it was is
answered with a missing output (`Processor.output_judged_afterwards`). A file that was there before
counts as the output of every such run (`Processor.stale_output_accepted`).
-/

namespace ImageGateway

variable {before : Files} {cwd : Place} {path : String}

/-! ## What a run leaves -/

/-- What is found at the path is the same before and after the run. -/
def Run.Leaves (run : Run) (before : Files) (cwd : Place) (path : String) : Prop :=
  run.files.find cwd path = before.find cwd path

theorem Run.Leaves.regularAt_iff {run : Run} (h : run.Leaves before cwd path) :
    run.files.RegularAt cwd path ↔ before.RegularAt cwd path := by
  have same : run.files.find cwd path = before.find cwd path := h
  rw [← Files.isFile_iff, ← Files.isFile_iff, Files.isFile, Files.isFile, same]

namespace Processor

variable {p : Processor} {fs : Files} {r : Request} {c : Prepared} {out : RunOutput}

/-! ## Success -/

theorem judge_eq_ok_iff {answer : Except Failure RunOutput} {after : Files} :
    (p.judge c answer after).1 = .ok () ↔ ∃ out, answer = .ok out ∧ out.code = some 0 ∧
      after.RegularAt p.cwd (p.resolve c.outputImagePath) := by
  constructor
  · intro h
    have judged := p.judged_judge c answer after
    rw [h] at judged
    cases judged with
    | produced hc hr => exact ⟨_, rfl, hc, hr⟩
  · rintro ⟨out, rfl, hc, hr⟩
    exact judge_produced hc hr

theorem answer_process_eq_ok_iff (h : r.prepare = .ok c) :
    (p.process fs r).answer = .ok path ↔ path = c.outputImagePath ∧
      ∃ out, (p.runner.run c.args fs).answer = .ok out ∧ out.code = some 0 ∧
        (p.runner.run c.args fs).files.RegularAt p.cwd (p.resolve c.outputImagePath) := by
  constructor
  · intro ha
    refine ⟨path_of_answer_process h ha, judge_eq_ok_iff.1 ?_⟩
    rw [answer_process h] at ha
    generalize (p.judge c _ _).1 = verdict at ha ⊢
    cases verdict with
    | error e => cases ha
    | ok => rfl
  · rintro ⟨rfl, judged⟩
    rw [answer_process h, judge_eq_ok_iff.2 judged]
    rfl

theorem prepare_of_answer_ok (ha : (p.process fs r).answer = .ok path) :
    ∃ c, r.prepare = .ok c := by
  cases h : r.prepare with
  | ok c => exact ⟨c, rfl⟩
  | error e =>
    rw [process_of_invalid h] at ha
    cases ha

theorem answer_of_missing (h : r.prepare = .ok c)
    (ho : (p.runner.run c.args fs).answer = .ok out) (hc : out.code = some 0)
    (hr : ¬ (p.runner.run c.args fs).files.RegularAt p.cwd (p.resolve c.outputImagePath)) :
    (p.process fs r).answer = .error (.missingOutput (p.resolve c.outputImagePath)) := by
  rw [answer_process h, ho, judge_missing hc hr]
  rfl

/-! ## The run and the output -/

/-- A request is answered with a path only if a regular file is there after the run, and if none
was there before, then the run changed what is found there. A run with exit code zero that leaves
the place of the output as it was is answered with a missing output if no regular file was there
before, and like a success if one was. So after a success the output counts again for every later
run of the same request that does no more than exit with zero. -/
theorem output_judged_afterwards (p : Processor) (fs : Files) (r : Request) :
    (∀ path, (p.process fs r).answer = .ok path →
      (p.process fs r).files.RegularAt p.cwd (p.resolve path) ∧
      (¬ fs.RegularAt p.cwd (p.resolve path) →
        ∃ c, r.prepare = .ok c ∧ ¬ (p.runner.run c.args fs).Leaves fs p.cwd (p.resolve path))) ∧
    (∀ c out, r.prepare = .ok c → (p.runner.run c.args fs).answer = .ok out →
      out.code = some 0 →
      (p.runner.run c.args fs).Leaves fs p.cwd (p.resolve c.outputImagePath) →
      (¬ fs.RegularAt p.cwd (p.resolve c.outputImagePath) →
        (p.process fs r).answer = .error (.missingOutput (p.resolve c.outputImagePath))) ∧
      (fs.RegularAt p.cwd (p.resolve c.outputImagePath) →
        (p.process fs r).answer = .ok c.outputImagePath)) ∧
    ∀ path, (p.process fs r).answer = .ok path → ∀ c out, r.prepare = .ok c →
      (p.runner.run c.args (p.process fs r).files).answer = .ok out → out.code = some 0 →
      (p.runner.run c.args (p.process fs r).files).Leaves (p.process fs r).files p.cwd
        (p.resolve path) →
      (p.process (p.process fs r).files r).answer = .ok path := by
  have regular {path : String} (ha : (p.process fs r).answer = .ok path) :
      (p.process fs r).files.RegularAt p.cwd (p.resolve path) := by
    obtain ⟨c, h⟩ := prepare_of_answer_ok ha
    obtain ⟨rfl, -, -, -, hr⟩ := (answer_process_eq_ok_iff h).1 ha
    rwa [files_process h]
  refine ⟨fun path ha => ⟨regular ha, fun hn => ?_⟩, fun c out h ho hc leaves => ⟨?_, ?_⟩, ?_⟩
  · obtain ⟨c, h⟩ := prepare_of_answer_ok ha
    refine ⟨c, h, fun leaves => hn (leaves.regularAt_iff.1 ?_)⟩
    rw [← files_process h]
    exact regular ha
  · intro hn
    exact answer_of_missing h ho hc fun hr => hn (leaves.regularAt_iff.1 hr)
  · intro hr
    exact (answer_process_eq_ok_iff h).2 ⟨rfl, out, ho, hc, leaves.regularAt_iff.2 hr⟩
  · intro path ha c out h ho hc leaves
    obtain rfl := path_of_answer_process h ha
    exact (answer_process_eq_ok_iff h).2
      ⟨rfl, out, ho, hc, leaves.regularAt_iff.2 (regular ha)⟩

/-! ### An output from before -/

/-- A processor whose program exits with zero and does nothing else. -/
def idleProcessor : Processor :=
  ⟨⟨"/build", fun _ => [], fun _ fs => ⟨fs, .ok { code := some 0 }, some 1⟩⟩, []⟩

/-- Files with an old output for `photo.png`. -/
def staleFiles : Files :=
  ⟨[(["build"], .dir), (["photo_KAI.png", "build"], .file [111, 108, 100] defaultMode)]⟩

/-- That there is an output does not show that the run wrote it, and a run with exit code zero
that wrote nothing need not be answered with a missing output. -/
theorem stale_output_accepted :
    (¬ ∀ (p : Processor) (fs : Files) (r : Request) (path : String),
      (p.process fs r).answer = .ok path → ∃ c, r.prepare = .ok c ∧
        ¬ (p.runner.run c.args fs).Leaves fs p.cwd (p.resolve path)) ∧
    ¬ ∀ (p : Processor) (fs : Files) (r : Request) (c : Prepared) (out : RunOutput),
      r.prepare = .ok c → (p.runner.run c.args fs).answer = .ok out → out.code = some 0 →
      (p.runner.run c.args fs).files = fs →
      (p.process fs r).answer = .error (.missingOutput (p.resolve c.outputImagePath)) := by
  have prepared : (⟨"photo.png", [], "ml.json", none⟩ : Request).prepare =
      .ok ⟨"photo_KAI.png", [], ["photo.png", "ml.json", "photo_KAI.png"]⟩ := rfl
  have present : staleFiles.RegularAt [] "/build/photo_KAI.png" :=
    Files.isFile_iff.1 (by decide +kernel)
  have accepted : (idleProcessor.process staleFiles ⟨"photo.png", [], "ml.json", none⟩).answer =
      .ok "photo_KAI.png" :=
    (answer_process_eq_ok_iff prepared).2 ⟨rfl, _, rfl, rfl, present⟩
  refine ⟨fun claim => ?_, fun claim => ?_⟩
  · obtain ⟨c, -, changed⟩ := claim _ _ _ _ accepted
    exact changed rfl
  · have missing := claim idleProcessor staleFiles _ _ _ prepared rfl rfl rfl
    cases accepted.symm.trans missing

end Processor

end ImageGateway
