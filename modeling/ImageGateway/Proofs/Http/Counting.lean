import ImageGateway.Proofs.Http.Exchange
import ImageGateway.Proofs.Pool.Records

/-!
What the metrics tell about the requests of clients. Every response is counted once, under the
method and the path of its request and its own status, in two metrics with the same labels
(`Exchange.handle_metrics`). The workers record other things at any time, also for clients that are
gone, but nothing under these names. So whatever is asked of the service and however long it waits,
both metrics add up to the responses that were given (`Exchange.responses_accounted`).
-/

namespace ImageGateway.Http

/-! ## Paths -/

theorem takeWhile_append_stop {p : Char → Bool} {c : Char} (h : p c = false) (l m : List Char) :
    (l ++ c :: m).takeWhile p = l.takeWhile p := by
  induction l with
  | nil => exact List.takeWhile_cons_of_neg (by simp [h])
  | cons d l ih => rw [List.cons_append, List.takeWhile_cons, List.takeWhile_cons, ih]

/-- A query does not belong to the path. -/
theorem Request.path_query (r : Request) (query : String) :
    { r with target := r.target ++ "?" ++ query }.path = r.path := by
  have target : (r.target ++ "?" ++ query).toList = r.target.toList ++ '?' :: query.toList := by
    simp
  simp only [Request.path]
  rw [target, takeWhile_append_stop rfl]

namespace Exchange

variable {x x' y : Exchange} {s : Service} {r r' : Request} {files : Files} {name path : String}
  {visits : List (Request × Response)}

/-- The path that a request is counted under: the template of the route that is registered for its
own path, or its own path if there is none. -/
def CountedUnder (s : Service) (r : Request) (path : String) : Prop :=
  (∃ route ∈ Route.all s.openApi, route.template = r.path ∧ path = route.template) ∨
    (∀ route ∈ Route.all s.openApi, route.template ≠ r.path) ∧ path = r.path

theorem countedUnder_pathLabel (s : Service) (r : Request) : CountedUnder s r (pathLabel s r) := by
  rw [pathLabel, Route.of?]
  cases h : (Route.all s.openApi).find? (·.template = r.path) with
  | none =>
    refine .inr ⟨fun route hr => ?_, rfl⟩
    simpa using List.find?_eq_none.1 h route hr
  | some route =>
    exact .inl ⟨route, List.mem_of_find?_eq_some h, by simpa using List.find?_some h, rfl⟩

theorem countedUnder_congr (h : r'.path = r.path) :
    CountedUnder s r' path ↔ CountedUnder s r path := by
  rw [CountedUnder, CountedUnder, h]

/-! ## What is recorded -/

/-- The metrics of responses: their number, and one sample for each. -/
def responseMetrics : List String := ["http_requests_total", "http_requests_duration_seconds"]

/-- The labels under which a response with this status is counted. -/
def labels (s : Service) (r : Request) (status : Nat) : List (String × String) :=
  [("method", r.method), ("path", pathLabel s r), ("status", toString status)]

/-- The series of a name whose labels are of some kind. -/
def under (name : String) (kind : List (String × String) → Bool) (series : Series) : Bool :=
  series.name = name && kind series.labels

theorem countP_recordings (hn : name ∈ responseMetrics) (s : Service) (r : Request)
    (status : Nat) (kind : List (String × String) → Bool) :
    List.countP (under name kind) (recordings s r status) =
      if kind (labels s r status) then 1 else 0 := by
  have recorded : recordings s r status =
      responseMetrics.map fun name => ⟨name, labels s r status⟩ := rfl
  rw [recorded]
  simp only [responseMetrics, List.mem_cons, List.not_mem_nil, or_false] at hn
  rcases hn with rfl | rfl <;> simp [responseMetrics, under, List.countP_cons]

/-- Runs of the program are not counted under these names. -/
theorem countP_tally (hn : name ∈ responseMetrics) (kind : List (String × String) → Bool)
    (outcomes : List Outcome) : List.countP (under name kind) (Outcome.tally outcomes) = 0 := by
  rw [List.countP_eq_zero]
  intro series hs hu
  rw [under, Bool.and_eq_true] at hu
  obtain rfl : series.name = name := of_decide_eq_true hu.1
  -- Neither of the two series of a run has such a name.
  apply absurd hn
  rcases Outcome.mem_tally hs with rfl | ⟨o, rfl⟩
  · decide
  · cases o <;> decide

theorem mem_labels_iff {status status' : Nat} :
    ("status", toString status') ∈ labels s r status ↔ status = status' := by
  constructor
  · intro h
    simp only [labels, List.mem_cons, Prod.mk.injEq, List.not_mem_nil, or_false] at h
    rcases h with ⟨h, -⟩ | ⟨h, -⟩ | ⟨-, h⟩
    · exact absurd h (by decide)
    · exact absurd h (by decide)
    · rw [Nat.toString_eq_ofList_toDigits, Nat.toString_eq_ofList_toDigits, String.ofList_inj] at h
      have numbers := congrArg (Nat.ofDigitChars 10 · 0) h
      rw [Nat.ofDigitChars_ten_toDigits, Nat.ofDigitChars_ten_toDigits] at numbers
      exact numbers.symm
  · rintro rfl
    simp [labels]

/-! ## One request -/

theorem measured_respond (x : Exchange) (r : Request) :
    Pool.Measured x.pool (x.respond r).1.pool := by
  rw [respond_eq]
  split
  · exact Pool.measured_of_eq rfl
  · rename_i q wanted _
    have work : Pool.Measured x.pool ((x.received r).worked q) := Pool.measured_workFor ..
    rw [perform_eq]
    split
    · exact work
    · exact work

/-- However a request ends, its response is what is counted last. -/
theorem handle_metrics (x : Exchange) (r : Request) : ∃ outcomes,
    (x.handle r).1.pool.metrics = x.pool.metrics ++ Outcome.tally outcomes ++
      recordings x.service r (x.handle r).2.status := by
  obtain ⟨outcomes, measured⟩ := measured_respond x r
  obtain ⟨-, -, -, status⟩ := handle_spec x.service.processor x r
  obtain ⟨-, service⟩ := respond_changes (x := x) rfl r
  refine ⟨outcomes, ?_⟩
  rw [status, ← measured, ← service]
  rfl

theorem wait_metrics (x : Exchange) (milliseconds : Nat) : ∃ outcomes,
    (x.wait milliseconds).pool.metrics = x.pool.metrics ++ Outcome.tally outcomes :=
  Pool.measured_workFor ..

/-! ## Many requests -/

/-- What may come after a state, with the requests and the responses to them, oldest first. In
between time passes, and the files may be changed from elsewhere. -/
inductive Visited (x : Exchange) : List (Request × Response) → Exchange → Prop where
  | nil : Visited x [] x
  | handle {visits : List (Request × Response)} {y : Exchange} (r : Request) :
    Visited x visits y → Visited x (visits ++ [(r, (y.handle r).2)]) (y.handle r).1
  | wait {visits : List (Request × Response)} {y : Exchange} (milliseconds : Nat) :
    Visited x visits y → Visited x visits (y.wait milliseconds)
  | elsewhere {visits : List (Request × Response)} {y : Exchange} (files : Files) :
    Visited x visits y → Visited x visits { y with pool := { y.pool with files } }

theorem Visited.service (h : Visited x visits y) : y.service = x.service := by
  induction h with
  | nil => rfl
  | handle r _ ih => exact (handle_changes ih r).2
  | wait _ _ ih => exact ih
  | elsewhere _ _ ih => exact ih

/-- The series of one name and of some kind together stand for the responses that are counted under
labels of this kind. -/
theorem Visited.countP_metrics (h : Visited (create s files) visits x)
    (hn : name ∈ responseMetrics) (kind : List (String × String) → Bool) :
    List.countP (under name kind) x.pool.metrics =
      visits.countP fun v => kind (labels s v.1 v.2.status) := by
  induction h with
  | nil => rfl
  | @handle visits y r hy ih =>
    obtain ⟨outcomes, metrics⟩ := handle_metrics y r
    have service : y.service = s := hy.service
    rw [metrics, List.countP_append, List.countP_append, ih, countP_tally hn,
      countP_recordings hn, service, List.countP_append, List.countP_singleton]
    rfl
  | @wait visits y milliseconds _ ih =>
    obtain ⟨outcomes, metrics⟩ := wait_metrics y milliseconds
    rw [metrics, List.countP_append, ih, countP_tally hn]
    rfl
  | elsewhere _ _ ih => exact ih

theorem Visited.count_metrics (h : Visited (create s files) visits x)
    (hn : name ∈ responseMetrics) (l : List (String × String)) :
    x.pool.metrics.count ⟨name, l⟩ = visits.countP fun v => labels s v.1 v.2.status = l := by
  rw [← h.countP_metrics hn (· = l), Metrics.count, List.count]
  refine List.countP_congr fun series _ => ?_
  obtain ⟨name', l'⟩ := series
  simp [under]

/-- The metrics account for every response. Whatever was asked before, the response to a request is
counted in exactly one series of each metric, with the method of the request, its path or that of
its route, and the status that the client gets; all other series stay as they are. So the series of
a metric add up to the number of responses, and those of one status to the number of responses with
that status. The path depends neither on the method nor on a query. -/
theorem responses_accounted (h : Visited (create s files) visits x) :
    (∀ r : Request, ∃ path, CountedUnder s r path ∧ ∀ name ∈ responseMetrics,
      ∀ l : List (String × String),
        (x.handle r).1.pool.metrics.count ⟨name, l⟩ = x.pool.metrics.count ⟨name, l⟩ +
          if l = [("method", r.method), ("path", path),
            ("status", toString (x.handle r).2.status)] then 1 else 0) ∧
    (∀ name ∈ responseMetrics,
      x.pool.metrics.sum (·.name = name) = visits.length ∧
      ∀ status : Nat, (x.pool.metrics.sum fun series =>
          series.name = name ∧ ("status", toString status) ∈ series.labels) =
        visits.countP fun v => v.2.status = status) ∧
    ∀ (r : Request) (method query : String) (headers : Headers) (body : Bytes) (path : String),
      CountedUnder s ⟨method, r.target ++ "?" ++ query, headers, body⟩ path ↔
        CountedUnder s r path := by
  refine ⟨fun r => ⟨pathLabel s r, countedUnder_pathLabel s r, fun name hn l => ?_⟩,
    fun name hn => ⟨?_, fun status => ?_⟩, fun r method query headers body path => ?_⟩
  · rw [(h.handle r).count_metrics hn, h.count_metrics hn, List.countP_append,
      List.countP_singleton]
    simp [labels, eq_comm]
  · have all := h.countP_metrics hn fun _ => true
    rw [List.countP_true] at all
    rw [← all, Metrics.sum_eq_countP]
    refine List.countP_congr fun series _ => ?_
    simp [under]
  · have counted := h.countP_metrics hn fun l => ("status", toString status) ∈ l
    simp only [mem_labels_iff] at counted
    rw [← counted, Metrics.sum_eq_countP]
    refine List.countP_congr fun series _ => ?_
    simp [under]
  · exact countedUnder_congr (Request.path_query r query)

/-- A service that is asked for a page it does not have and, later, to change one that it has. -/
theorem two_responses_accounted :
    let x := (create plainService .empty).handle ⟨"GET", "/nowhere?a", [], []⟩
    let y := (x.1.wait 5).handle ⟨"PUT", "/", [], []⟩
    Visited (create plainService .empty)
      [(⟨"GET", "/nowhere?a", [], []⟩, x.2), (⟨"PUT", "/", [], []⟩, y.2)] y.1 ∧
      y.1.pool.metrics.sum (·.name = "http_requests_total") = 2 ∧
      (y.1.pool.metrics.sum fun series => series.name = "http_requests_total" ∧
        ("status", toString 405) ∈ series.labels) = 1 := by
  intro x y
  have visited : Visited (create plainService .empty) [(_, x.2), (_, y.2)] y.1 :=
    .handle _ (.wait 5 (.handle _ .nil))
  obtain ⟨-, totals, -⟩ := responses_accounted visited
  obtain ⟨all, each⟩ := totals "http_requests_total" List.mem_cons_self
  have refused := each 405
  exact ⟨visited, all, refused.trans (by decide +kernel)⟩

end Exchange

end ImageGateway.Http
