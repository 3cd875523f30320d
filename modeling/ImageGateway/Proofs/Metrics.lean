import ImageGateway.Proofs.Processing
import Mathlib.Algebra.BigOperators.Group.List.Lemmas
import Mathlib.Algebra.GroupWithZero.Nat
import Mathlib.Logic.Relation

/-!
What the metrics tell about the runs of the image program. The series of one name, each counted
once, add up to the recordings under that name (`Metrics.sum_eq_countP`). A request records the
outcome of its answer if the program was called for it, and nothing otherwise
(`Processor.accounted_process`). So however many requests are processed over the same metrics, by
whichever runners, each call is counted once under the outcome of its answer and has one sample of
its duration (`Ledger.calls_accounted`).
-/

namespace ImageGateway

/-! ## Sums -/

namespace Metrics

variable {m : Metrics} {wanted : Series → Bool}

/-- The counts of all series of a kind, added up. -/
def sum (m : Metrics) (wanted : Series → Bool) : Nat :=
  ((m.summary.filter fun x => wanted x.1).map (·.2)).sum

theorem nodup_eraseDups (m : Metrics) : m.eraseDups.Nodup := by
  generalize hn : m.length = n
  induction n using Nat.strongRecOn generalizing m with
  | ind n ih =>
    cases m with
    | nil => exact List.nodup_nil
    | cons s m =>
      rw [List.eraseDups_cons, List.nodup_cons]
      refine ⟨fun h => ?_, ih _ ?_ _ rfl⟩
      · simpa using (List.mem_filter.1 (List.mem_eraseDups.1 h)).2
      · rw [← hn, List.length_cons]
        exact Nat.lt_succ_of_le (List.length_filter_le _ _)

theorem eraseDups_perm_dedup (m : Metrics) : m.eraseDups.Perm m.dedup :=
  (List.perm_ext_iff_of_nodup m.nodup_eraseDups (List.nodup_dedup _)).2 fun s => by
    rw [List.mem_eraseDups, List.mem_dedup]

theorem sum_eq_countP (m : Metrics) (wanted : Series → Bool) :
    m.sum wanted = List.countP wanted m := by
  rw [← List.sum_map_count_dedup_filter_eq_countP, sum, summary, List.filter_map, List.map_map]
  exact ((m.eraseDups_perm_dedup.filter wanted).map _).sum_eq

theorem sum_name (m : Metrics) (name : String) : m.sum (·.name = name) = m.total name :=
  m.sum_eq_countP _

/-- If of what each thing records a series of this kind occurs at most once, then as many are
recorded in all as things for which it does. -/
theorem countP_flatMap {α : Type _} {f : α → Metrics} {kind : α → Bool}
    (h : ∀ a, List.countP wanted (f a) = if kind a then 1 else 0) (l : List α) :
    List.countP wanted (l.flatMap f) = l.countP kind := by
  induction l with
  | nil => rfl
  | cons a l ih =>
    rw [List.flatMap_cons, List.countP_append, h, ih, List.countP_cons, Nat.add_comm]

theorem countP_flatMap_of_one {α : Type _} {f : α → Metrics}
    (h : ∀ a, List.countP wanted (f a) = 1) (l : List α) :
    List.countP wanted (l.flatMap f) = l.length := by
  rw [@countP_flatMap wanted _ f (fun _ => true) h, List.countP_true]

end Metrics

/-! ## Outcomes -/

namespace Outcome

variable {outcomes : List Outcome}

/-- The series in which this outcome is counted. -/
def counter (o : Outcome) : Series := ⟨"kai_invocations_total", [("outcome", o.label)]⟩

/-- The series with the samples of durations. -/
def timer : Series := ⟨"kai_invocation_duration_seconds", []⟩

/-- The outcome that an answer is counted under, if the program was called. -/
def ofAnswer : Except Failure String → Outcome
  | .ok _ => .success
  | .error (.missingOutput _) => .missingOutput
  | .error (.launch _ _) => .launchFailure
  | .error _ => .failure

theorem recordings_eq (o : Outcome) : o.recordings = [o.counter, timer] := rfl

/-- What runs record, one after the other. -/
def tally (outcomes : List Outcome) : Metrics := outcomes.flatMap recordings

theorem tally_append (xs ys : List Outcome) : tally (xs ++ ys) = tally xs ++ tally ys :=
  List.flatMap_append

theorem mem_tally {s : Series} (h : s ∈ tally outcomes) :
    s = timer ∨ ∃ o : Outcome, s = o.counter := by
  obtain ⟨o, -, hs⟩ := List.mem_flatMap.1 h
  rw [recordings_eq, List.mem_pair] at hs
  rcases hs with rfl | rfl
  · exact .inr ⟨o, rfl⟩
  · exact .inl rfl

theorem count_counter (o : Outcome) : (tally outcomes).count o.counter = outcomes.count o :=
  Metrics.countP_flatMap (fun x => by cases x <;> cases o <;> decide) outcomes

theorem total_counter : (tally outcomes).total "kai_invocations_total" = outcomes.length :=
  Metrics.countP_flatMap_of_one (fun o => by cases o <;> decide) outcomes

theorem total_timer :
    (tally outcomes).total "kai_invocation_duration_seconds" = outcomes.length :=
  Metrics.countP_flatMap_of_one (fun o => by cases o <;> decide) outcomes

end Outcome

/-! ## One request -/

/-- Either the program was not called and nothing was recorded, or it was called once and its
outcome was recorded, which is that of the answer. -/
inductive Processed.Accounted (d : Processed) : Prop where
  | refused : d.calls = [] → d.recordings = [] → Accounted d
  | called (args : List String) : d.calls = [args] →
    d.recordings = (Outcome.ofAnswer d.answer).recordings → Accounted d

namespace Processor

theorem ofAnswer_map (verdict : Except Failure Unit) (path : String) :
    Outcome.ofAnswer (verdict.map fun () => path) = outcome verdict := by
  rcases verdict with e | ⟨⟩
  · cases e <;> rfl
  · rfl

theorem accounted_process (p : Processor) (fs : Files) (r : Request) :
    (p.process fs r).Accounted := by
  cases h : r.prepare with
  | error e =>
    rw [process_of_invalid h]
    exact .refused rfl rfl
  | ok c =>
    refine .called c.args (calls_process h) ?_
    rw [process, attempt_of_prepare h]
    dsimp only [conclude]
    rw [ofAnswer_map]

end Processor

/-! ## Many requests -/

/-- Requests that are processed over the same metrics, one after the other. -/
structure Ledger where
  files : Files
  metrics : Metrics := []
  /-- What became of each request, oldest first. -/
  entries : List Processed := []

namespace Ledger

variable {l l' : Ledger} {d : Processed}

def start (files : Files) : Ledger := { files }

def enter (l : Ledger) (d : Processed) : Ledger where
  files := d.files
  metrics := l.metrics ++ d.recordings
  entries := l.entries ++ [d]

/-- One thing that happens: a request is processed, with any runner, or the files are changed from
elsewhere. -/
inductive Step : Ledger → Ledger → Prop where
  | process {l : Ledger} (p : Processor) (r : Request) : Step l (l.enter (p.process l.files r))
  | elsewhere {l : Ledger} (files : Files) : Step l { l with files }

abbrev Steps : Ledger → Ledger → Prop := Relation.ReflTransGen Step

/-- The calls of the program, oldest first. -/
def calls (l : Ledger) : List (List String) := l.entries.flatMap (·.calls)

/-- The answers to the requests for which the program was called. -/
def answers (l : Ledger) : List (Except Failure String) :=
  (l.entries.filter (·.calls ≠ [])).map (·.answer)

theorem count_answers (l : Ledger) (o : Outcome) : (l.answers.map Outcome.ofAnswer).count o =
    l.entries.countP fun d => d.calls ≠ [] ∧ Outcome.ofAnswer d.answer = o := by
  rw [answers, List.map_map, List.count, List.countP_map, List.countP_filter]
  refine List.countP_congr fun d _ => ?_
  simp [and_comm]

/-- There is one answer to each call, and the metrics are what these answers record. -/
structure Balanced (l : Ledger) : Prop where
  calls : l.calls.length = l.answers.length
  metrics : l.metrics = Outcome.tally (l.answers.map Outcome.ofAnswer)

theorem balanced_start (files : Files) : (start files).Balanced := ⟨rfl, rfl⟩

theorem enter_of_refused (hc : d.calls = []) (hr : d.recordings = []) :
    (l.enter d).calls = l.calls ∧ (l.enter d).answers = l.answers ∧
      (l.enter d).metrics = l.metrics := by
  simp [Ledger.calls, answers, enter, hc, hr]

theorem enter_of_called {args : List String} (hc : d.calls = [args]) :
    (l.enter d).calls = l.calls ++ [args] ∧ (l.enter d).answers = l.answers ++ [d.answer] ∧
      (l.enter d).metrics = l.metrics ++ d.recordings := by
  simp [Ledger.calls, answers, enter, hc]

theorem Balanced.enter (h : l.Balanced) (hd : d.Accounted) : (l.enter d).Balanced := by
  cases hd with
  | refused hc hr =>
    obtain ⟨calls, answers, metrics⟩ := @enter_of_refused l d hc hr
    exact ⟨by rw [calls, answers, h.calls], by rw [metrics, answers, h.metrics]⟩
  | called args hc hr =>
    obtain ⟨calls, answers, metrics⟩ := @enter_of_called l d args hc
    refine ⟨?_, ?_⟩
    · rw [calls, answers, List.length_append, List.length_append, h.calls]
      rfl
    · rw [metrics, answers, h.metrics, hr, List.map_append, Outcome.tally_append]
      rfl

theorem Step.balanced (hs : Step l l') (h : l.Balanced) : l'.Balanced := by
  cases hs with
  | process p r => exact h.enter (p.accounted_process l.files r)
  | elsewhere => exact ⟨h.calls, h.metrics⟩

theorem Steps.balanced (hs : Steps l l') (h : l.Balanced) : l'.Balanced := by
  induction hs with
  | refl => exact h
  | tail _ step ih => exact step.balanced ih

/-- The metrics account for every call of the program. However many requests were processed, each
call is counted once and has one sample of its duration, and under each outcome as many are counted
as have an answer of that kind. A request that is not valid changes none of it, and in which order
the answers came does not matter to any series. -/
theorem calls_accounted {files : Files} (h : Steps (start files) l) :
    l.metrics.sum (·.name = "kai_invocations_total") = l.calls.length ∧
    l.metrics.sum (·.name = "kai_invocation_duration_seconds") = l.calls.length ∧
    (∀ s ∈ l.metrics, s = Outcome.timer ∨ ∃ o : Outcome, s = o.counter) ∧
    (∀ o : Outcome, l.metrics.count o.counter =
      l.entries.countP fun d => d.calls ≠ [] ∧ Outcome.ofAnswer d.answer = o) ∧
    (∀ (p : Processor) (r : Request) (e : Failure), r.prepare = .error e →
      (l.enter (p.process l.files r)).metrics = l.metrics ∧
        (l.enter (p.process l.files r)).calls = l.calls) ∧
    ∀ (files' : Files) (l' : Ledger), Steps (start files') l' → l.answers.Perm l'.answers →
      ∀ s, l.metrics.count s = l'.metrics.count s := by
  have balanced := Steps.balanced h (balanced_start files)
  have length : (l.answers.map Outcome.ofAnswer).length = l.calls.length := by
    rw [List.length_map, balanced.calls]
  refine ⟨?_, ?_, fun s hs => ?_, fun o => ?_, fun p r e he => ?_, fun files' l' h' perm s => ?_⟩
  · rw [Metrics.sum_name, balanced.metrics, Outcome.total_counter, length]
  · rw [Metrics.sum_name, balanced.metrics, Outcome.total_timer, length]
  · rw [balanced.metrics] at hs
    exact Outcome.mem_tally hs
  · rw [balanced.metrics, Outcome.count_counter, count_answers]
  · rw [Processor.process_of_invalid he]
    obtain ⟨calls, -, metrics⟩ := @enter_of_refused l ⟨l.files, .error e, [], [], []⟩ rfl rfl
    exact ⟨metrics, calls⟩
  · have same := (perm.map Outcome.ofAnswer).flatMap_right Outcome.recordings
    rw [balanced.metrics, (Steps.balanced h' (balanced_start files')).metrics]
    exact same.count_eq s

/-! ### A call that fails and a request without a call -/

/-- A processor whose program is never started. -/
def stuckProcessor : Processor :=
  ⟨⟨"/", fun _ => [], fun _ fs => ⟨fs, .error (.launch "/KAI-impl" .emptyPath), some 0⟩⟩, []⟩

/-- The ledger after a request that the processor calls its program for. -/
def stuck : Ledger :=
  (start .empty).enter (stuckProcessor.process .empty ⟨"a.png", [], "m", none⟩)

theorem stuck_calls_accounted :
    let l := stuck.enter (stuckProcessor.process .empty ⟨"a.bmp", [], "m", none⟩)
    Steps (start .empty) l ∧ l.entries.length = 2 ∧ l.calls = [["a.png", "m", "a_KAI.png"]] ∧
      l.metrics.sum (·.name = "kai_invocations_total") = l.calls.length ∧
      l.metrics.count Outcome.launchFailure.counter = l.entries.countP fun d =>
        d.calls ≠ [] ∧ Outcome.ofAnswer d.answer = .launchFailure := by
  have called : Step (start .empty) stuck := .process stuckProcessor ⟨"a.png", [], "m", none⟩
  have steps := (Relation.ReflTransGen.single called).tail
    (@Step.process stuck stuckProcessor ⟨"a.bmp", [], "m", none⟩)
  obtain ⟨total, -, -, outcomes, -, -⟩ := calls_accounted steps
  exact ⟨steps, rfl, rfl, total, outcomes .launchFailure⟩

end Ledger

end ImageGateway
