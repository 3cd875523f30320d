import ImageGateway.Processing
import ImageGateway.Proofs.Files.Lookup
import ImageGateway.Proofs.Request

/-!
The outcome of processing one request. An invalid request ends before anything happens, a valid
one calls the program once, and its answer is settled by how the run ended and by what is then at
the place of the output (`Processor.process_outcome`). That place is the one that the program
itself means by its third argument.
-/

namespace ImageGateway.Processor

variable {p : Processor} {fs after : Files} {r : Request} {c : Prepared} {e : Failure}
  {out : RunOutput}

/-! ## Before the run -/

theorem process_of_invalid (h : r.prepare = .error e) :
    p.process fs r = ⟨fs, .error e, [], [], []⟩ := by
  simp [process, attempt, h, Except.map]

theorem attempt_of_prepare (h : r.prepare = .ok c) :
    p.attempt fs r = .ok ⟨c, p.runner.run c.args fs⟩ := by
  rw [attempt, h]
  rfl

theorem calls_process (h : r.prepare = .ok c) : (p.process fs r).calls = [c.args] := by
  rw [process, attempt_of_prepare h]

theorem files_process (h : r.prepare = .ok c) :
    (p.process fs r).files = (p.runner.run c.args fs).files := by
  rw [process, attempt_of_prepare h]

theorem answer_process (h : r.prepare = .ok c) :
    (p.process fs r).answer =
      (p.judge c (p.runner.run c.args fs).answer (p.runner.run c.args fs).files).1.map
        fun () => c.outputImagePath := by
  rw [process, attempt_of_prepare h]
  rfl

theorem args_of_prepare (h : r.prepare = .ok c) : c.args[2]? = some c.outputImagePath := by
  rw [(Request.prepare_eq_ok_iff.1 h).2.2]
  rfl

/-! ## After the run -/

theorem judge_error : (p.judge c (.error e) after).1 = .error e := rfl

theorem judge_unclean (h : out.code ≠ some 0) :
    (p.judge c (.ok out) after).1 = .error (.run out.code (Text.trimEnd out.stderr)) := by
  simp [judge, RunOutput.success, h]

theorem judge_produced (h : out.code = some 0)
    (hr : after.RegularAt p.cwd (p.resolve c.outputImagePath)) :
    (p.judge c (.ok out) after).1 = .ok () := by
  simp [judge, RunOutput.success, h, Files.isFile_iff.2 hr]

theorem judge_missing (h : out.code = some 0)
    (hr : ¬ after.RegularAt p.cwd (p.resolve c.outputImagePath)) :
    (p.judge c (.ok out) after).1 = .error (.missingOutput (p.resolve c.outputImagePath)) := by
  have hf : ¬ after.isFile p.cwd (p.resolve c.outputImagePath) = true := fun hf =>
    hr (Files.isFile_iff.1 hf)
  simp [judge, RunOutput.success, h, hf]

/-- How a run with this answer and these files after it is judged: it failed, it ended uncleanly, or
it ended well with or without an output. -/
inductive Judged (p : Processor) (c : Prepared) (after : Files) :
    Except Failure RunOutput → Except Failure Unit → Prop where
  | failed (e : Failure) : Judged p c after (.error e) (.error e)
  | unclean {out : RunOutput} : out.code ≠ some 0 →
    Judged p c after (.ok out) (.error (.run out.code (Text.trimEnd out.stderr)))
  | produced {out : RunOutput} : out.code = some 0 →
    after.RegularAt p.cwd (p.resolve c.outputImagePath) → Judged p c after (.ok out) (.ok ())
  | missing {out : RunOutput} : out.code = some 0 →
    ¬ after.RegularAt p.cwd (p.resolve c.outputImagePath) →
    Judged p c after (.ok out) (.error (.missingOutput (p.resolve c.outputImagePath)))

theorem judged_judge (p : Processor) (c : Prepared) (answer : Except Failure RunOutput)
    (after : Files) : Judged p c after answer (p.judge c answer after).1 := by
  cases answer with
  | error e => exact .failed e
  | ok out =>
    by_cases hc : out.code = some 0
    · by_cases hr : after.RegularAt p.cwd (p.resolve c.outputImagePath)
      · rw [judge_produced hc hr]
        exact .produced hc hr
      · rw [judge_missing hc hr]
        exact .missing hc hr
    · rw [judge_unclean hc]
      exact .unclean hc

/-- Of the files after a run only the place of the output counts. -/
theorem judge_congr {after' : Files} {answer : Except Failure RunOutput}
    (h : after.isFile p.cwd (p.resolve c.outputImagePath) =
      after'.isFile p.cwd (p.resolve c.outputImagePath)) :
    p.judge c answer after = p.judge c answer after' := by
  unfold judge
  simp only [h]

/-- The only path that a request is answered with is that of its output. -/
theorem path_of_answer_process {path : String} (h : r.prepare = .ok c)
    (ha : (p.process fs r).answer = .ok path) : path = c.outputImagePath := by
  rw [answer_process h] at ha
  cases hj : (p.judge c (p.runner.run c.args fs).answer (p.runner.run c.args fs).files).1 with
  | error e =>
    rw [hj] at ha
    cases ha
  | ok =>
    rw [hj] at ha
    cases ha
    rfl

/-! ## The outcome -/

/-- An invalid request is answered with what is wrong with it, and nothing else happens. A valid
one calls the program once with its arguments. A failure of the runner is the answer; an exit code
other than zero, or none, gives a failure with that code and the standard error without the white
space at its end; and exit code zero gives the output path if a regular file is at the place of
the third argument afterwards, else a failure that names the place. For a process in the working
directory the third argument names the same place. -/
theorem process_outcome (p : Processor) (fs : Files) (r : Request) :
    (∀ e, r.prepare = .error e → p.process fs r = ⟨fs, .error e, [], [], []⟩) ∧
    ∀ c, r.prepare = .ok c → ∃ target, c.args[2]? = some target ∧
      (p.process fs r).calls = [c.args] ∧
      (p.process fs r).files = (p.runner.run c.args fs).files ∧
      (∀ e, (p.runner.run c.args fs).answer = .error e → (p.process fs r).answer = .error e) ∧
      (∀ out, (p.runner.run c.args fs).answer = .ok out → out.code ≠ some 0 →
        ∃ said, Text.IsTrimEnd out.stderr said ∧
          (p.process fs r).answer = .error (.run out.code said)) ∧
      (∀ out, (p.runner.run c.args fs).answer = .ok out → out.code = some 0 →
        ((p.process fs r).answer = .ok c.outputImagePath ↔
          (p.runner.run c.args fs).files.RegularAt p.cwd (p.resolve target)) ∧
        (¬ (p.runner.run c.args fs).files.RegularAt p.cwd (p.resolve target) →
          (p.process fs r).answer = .error (.missingOutput (p.resolve target)))) ∧
      ∀ (files : Files) (w : Place),
        files.locate p.cwd p.runner.workingDir true = .ok ⟨w, some .dir⟩ →
        (∀ q, files.Names p.cwd (p.resolve target) q ↔ files.Names w target q) ∧
        ∀ spot, files.locate p.cwd (p.resolve target) true = .ok spot →
          files.locate w target true = .ok spot := by
  refine ⟨fun e h => process_of_invalid h, fun c h => ?_⟩
  have ne : c.outputImagePath ≠ "" :=
    ne_empty_of_outputPath (Request.prepare_eq_ok_iff.1 h).1
  refine ⟨c.outputImagePath, args_of_prepare h, calls_process h, files_process h, ?_, ?_, ?_, ?_⟩
  · intro e he
    rw [answer_process h, he, judge_error]
    rfl
  · intro out ho hc
    refine ⟨_, Text.isTrimEnd_trimEnd out.stderr, ?_⟩
    rw [answer_process h, ho, judge_unclean hc]
    rfl
  · intro out ho hc
    by_cases hr : (p.runner.run c.args fs).files.RegularAt p.cwd (p.resolve c.outputImagePath)
    · rw [answer_process h, ho, judge_produced hc hr]
      exact ⟨⟨fun _ => hr, fun _ => rfl⟩, fun hn => absurd hr hn⟩
    · rw [answer_process h, ho, judge_missing hc hr]
      refine ⟨⟨fun h => ?_, fun h => absurd h hr⟩, fun _ => rfl⟩
      cases h
  · intro files w hw
    exact ⟨fun q => Files.names_join_iff hw ne, fun spot => Files.locate_of_locate_join hw ne⟩

end ImageGateway.Processor
