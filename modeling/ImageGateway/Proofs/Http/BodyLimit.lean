import ImageGateway.Proofs.Http.Outcome

/-!
How long a body may be. A service that has been set up takes bodies of the configured size, at both
ways of processing an image, and up to it the length of a body does not count. As long as the size
is a word of 64 bits in octets, a larger one changes nothing for what was taken before
(`Exchange.body_limit_in_force`). With a size that is no such word the program panics as it sets
the service up (`Exchange.huge_size_overflows`).
-/

namespace ImageGateway

/-- The same configuration with another size for bodies. -/
def Config.sized (c : Config) (millions : Nat) : Config :=
  { c with app := { c.app with maxBodySizeMb := millions } }

/-- The longest body in octets, as it is configured. -/
def Config.bodySize (c : Config) : Nat := c.app.maxBodySizeMb * 1000000

namespace Http

variable {s : Service} {r : Request} {runner : Program → Runner} {cwd : Place} {cwdPath : String}
  {config : Config} {files : Files} {limit millions : Nat}

/-! ## The limit -/

namespace Service

/-- If the whole product is a word, so is every product on the way. -/
theorem limit?_eq (millions : Nat) : limit? millions =
    if millions * 1000000 < UInt64.size then some (millions * 1000000) else none := by
  have product : millions * 1000 * 1000 = millions * 1000000 := Nat.mul_assoc ..
  rw [limit?, wordProduct?]
  split
  · rw [Option.bind_some, wordProduct?, product]
  · rename_i large
    have le : millions * 1000 ≤ millions * 1000000 := Nat.mul_le_mul_left _ (by decide)
    rw [if_neg fun h => large (le.trans_lt h), Option.bind_none]

/-- The same service with another limit. -/
def limited (s : Service) (limit : Nat) : Service := { s with bodyLimit := limit }

/-- Of a configuration the size for bodies decides on the limit, and on whether there is a service
at all, but on nothing else. -/
theorem setUp_sized (h : (setUp runner cwd cwdPath config).1 = .ok s) (millions : Nat) :
    (setUp runner cwd cwdPath (config.sized millions)).1 =
      match limit? millions with
      | none => .error ⟨[], .overflow⟩
      | some limit => .ok (s.limited limit) := by
  obtain ⟨program, uploads, hp, hu, made⟩ := of_setUp h
  have other : (setUp runner cwd cwdPath (config.sized millions)).1 =
      assemble ⟨runner program, cwd⟩ uploads (config.sized millions) := setUp_of_created hp hu
  have size : (config.sized millions).app.maxBodySizeMb = millions := rfl
  rw [other, assemble, size]
  rw [assemble] at made
  split at made
  · cases made
  · cases made
    cases limit? millions <;> rfl

theorem setUp_of_overflow (h : (setUp runner cwd cwdPath config).1 = .ok s)
    (large : UInt64.size ≤ (config.sized millions).bodySize) :
    (setUp runner cwd cwdPath (config.sized millions)).1 = .error ⟨[], .overflow⟩ := by
  have none : limit? millions = none := (limit?_eq millions).trans (if_neg (Nat.not_lt.2 large))
  rw [setUp_sized h, none]

theorem setUp_of_fits (h : (setUp runner cwd cwdPath config).1 = .ok s)
    (fits : (config.sized millions).bodySize < UInt64.size) :
    (setUp runner cwd cwdPath (config.sized millions)).1 =
      .ok (s.limited (config.sized millions).bodySize) := by
  have limit : limit? millions = some (config.sized millions).bodySize :=
    (limit?_eq millions).trans (if_pos fits)
  rw [setUp_sized h, limit]

/-- What has been set up takes bodies of the configured size. -/
theorem bodyLimit_of_setUp (h : (setUp runner cwd cwdPath config).1 = .ok s) :
    s.bodyLimit = config.bodySize ∧ config.bodySize < UInt64.size := by
  obtain ⟨program, uploads, -, -, made⟩ := of_setUp h
  have limit := (of_assemble made).2.2
  rw [limit?_eq] at limit
  split at limit
  · rename_i fits
    exact ⟨(Option.some.inj limit).symm, fits⟩
  · cases limit

/-! ## One request -/

/-! ### Longer bodies -/

section long

variable (long : s.bodyLimit < r.body.length)

include long

/-- A longer form is refused, whatever is in it. -/
theorem readSubmission_of_long : ∃ text, s.readSubmission r = .error (.plain 400 text) := by
  rw [readSubmission]
  split
  · exact ⟨_, rfl⟩
  · rw [formItems, if_pos long]
    exact ⟨_, rfl⟩

theorem Posts.demand_of_long (h : Posts .processImage r) :
    ∃ text, s.demand r = .answered (.plain 400 text) := by
  obtain ⟨text, refused⟩ := readSubmission_of_long long
  exact ⟨text, by rw [h.demand_processImage, refused]⟩

end long

/-! ### Other bodies -/

section short

variable (short : r.body.length ≤ s.bodyLimit)

include short

theorem readRequest_limited (short' : r.body.length ≤ limit) :
    (s.limited limit).readRequest r = s.readRequest r := by
  have limits : (s.limited limit).bodyLimit = limit := rfl
  rw [readRequest, readRequest, limits, if_neg (Nat.not_lt.2 short), if_neg (Nat.not_lt.2 short')]

theorem readSubmission_limited (short' : r.body.length ≤ limit) :
    (s.limited limit).readSubmission r = s.readSubmission r := by
  have limits : (s.limited limit).bodyLimit = limit := rfl
  rw [readSubmission, readSubmission]
  simp only [limits, formItems_of_short short, formItems_of_short short']

theorem demand_limited (short' : r.body.length ≤ limit) :
    (s.limited limit).demand r = s.demand r := by
  rw [demand, demand, readRequest_limited short short', readSubmission_limited short short']
  rfl

/-- Of two limits that a body keeps neither shows. -/
theorem receive_limited (short' : r.body.length ≤ limit) (fs : Files) (id : String) :
    (s.limited limit).receive fs id r = s.receive fs id r := by
  rw [receive, receive, demand_limited short short']
  rfl

theorem status_of_readRequest_short {response : Response}
    (h : s.readRequest r = .error response) : response.status ≠ 413 := by
  rw [readRequest] at h
  split at h
  · rw [if_neg (Nat.not_lt.2 short)] at h
    split at h
    · cases h
    · cases h
      decide
    · cases h
      exact (by decide : 422 ≠ 413)
  · cases h
    decide

end short

end Service

/-! ## Requests in their order -/

namespace Exchange

variable {x : Exchange} {q : ImageGateway.Request} {wanted : Reply}

/-- The same state with another limit. -/
def limited (x : Exchange) (limit : Nat) : Exchange :=
  { x with service := x.service.limited limit }

theorem perform_limited (x : Exchange) (q : ImageGateway.Request) (wanted : Reply)
    (limit : Nat) : (x.limited limit).perform q wanted =
      ((x.perform q wanted).1.limited limit, (x.perform q wanted).2) := by
  have work : (x.limited limit).worked q = x.worked q := rfl
  have ticket : (x.limited limit).pool.tickets = x.pool.tickets := rfl
  rw [perform_eq, perform_eq, work, ticket]
  cases (x.worked q).answer? x.pool.tickets with
  | none => rfl
  | some answer =>
    cases answer with
    | error e => rfl
    | ok path => cases wanted <;> rfl

theorem respond_limited (short : r.body.length ≤ x.service.bodyLimit)
    (short' : r.body.length ≤ limit) :
    (x.limited limit).respond r = ((x.respond r).1.limited limit, (x.respond r).2) := by
  have same : (x.limited limit).service.receive (x.limited limit).pool.files
      (Uuid.v4 (x.limited limit).drawn) r = x.service.receive x.pool.files (Uuid.v4 x.drawn) r :=
    Service.receive_limited short short' _ _
  have state : (x.limited limit).received r = (x.received r).limited limit := by
    rw [Exchange.received, Exchange.received, same]
    rfl
  rw [respond_eq, respond_eq, state, same]
  cases (x.service.receive x.pool.files (Uuid.v4 x.drawn) r).2.1 with
  | answered response => rfl
  | work q wanted => exact perform_limited _ _ _ _

/-- A request whose body keeps two limits has the same response under both, and the same comes
after it. -/
theorem handle_limited (short : r.body.length ≤ x.service.bodyLimit)
    (short' : r.body.length ≤ limit) :
    (x.limited limit).handle r = ((x.handle r).1.limited limit, (x.handle r).2) := by
  rw [handle, handle, respond_limited short short']
  rfl

/-- A request that is answered at once leaves no trace. -/
theorem handle_of_demand_answered {response : Response} (hx : x.service = s)
    (hd : s.demand r = .answered response) (post : r.method = "POST") :
    (x.handle r).2 = response ∧ (x.handle r).1.pool.files = x.pool.files ∧
      ¬ Called x (x.handle r).1 := by
  subst hx
  have receive := Service.receive_of_answered x.pool.files (Uuid.v4 x.drawn) hd
  obtain ⟨tickets, files⟩ := handle_answered receive
  have told := (handle_of_answered rfl (congrArg (·.2.1) receive)).2.2 post
  exact ⟨told, files, not_called_of_tickets tickets⟩

/-- A request that is worked on is not too long any more. -/
theorem status_of_work (hx : x.service = s)
    (h : (s.receive x.pool.files (Uuid.v4 x.drawn) r).2.1 = .work q wanted) :
    (x.handle r).2.status ≠ 413 := by
  rw [(handle_of_work hx h).1]
  cases ((x.received r).worked q).answer? x.pool.tickets with
  | none => exact (by decide : 408 ≠ 413)
  | some answer =>
    rw [Service.outcome]
    rcases s.status_reply ((x.received r).worked q).files wanted answer with
      ⟨e, -, status⟩ | status | status
    · rw [status]
      split <;> decide
    · omega
    · omega

theorem status_eq_413_iff (hx : x.service = s) (h : Service.Posts .process r)
    (json : r.headers.mediaType?.map MediaType.isJson = some true) :
    (x.handle r).2.status = 413 ↔ s.bodyLimit < r.body.length := by
  constructor
  · intro refused
    by_contra short
    cases hread : s.readRequest r with
    | error response =>
      have demand : s.demand r = .answered response := by rw [h.demand_process, hread]
      rw [(handle_of_demand_answered hx demand h.method).1] at refused
      exact Service.status_of_readRequest_short (Nat.not_lt.1 short) hread refused
    | ok q =>
      have demand : s.demand r = .work q .path := by rw [h.demand_process, hread]
      exact status_of_work hx (by rw [Service.receive_of_work _ _ demand]) refused
  · exact status_of_long hx h json

/-- The limit in force is the configured size. At the one way of processing an image a longer body,
and no other, is refused as too long. At the other way a longer body is refused without a trace,
and any other is read as it is. With another size the service is the same but for its limit, and
from a larger one nothing changes for a body that was not too long before; only with a size that
is no word of 64 bits there is no service, since the program panics. -/
theorem body_limit_in_force (hs : (Service.setUp runner cwd cwdPath config).1 = .ok s)
    (hx : History (create s files) x) :
    (s.bodyLimit = config.bodySize ∧ config.bodySize < UInt64.size) ∧
    (∀ r, Service.Posts .process r → r.headers.mediaType?.map MediaType.isJson = some true →
      ((x.handle r).2.status = 413 ↔ config.bodySize < r.body.length)) ∧
    (∀ r, Service.Posts .processImage r → config.bodySize < r.body.length →
      (x.handle r).2.status = 400 ∧ (x.handle r).1.pool.files = x.pool.files ∧
        ¬ Called x (x.handle r).1) ∧
    (∀ r boundary, Service.Posts .processImage r →
      r.headers.mediaType?.bind MediaType.boundary? = some boundary →
      r.body.length ≤ config.bodySize → s.Offers r (Multipart.items boundary r.body)) ∧
    ∀ millions, let size := (config.sized millions).bodySize
      (UInt64.size ≤ size →
        (Service.setUp runner cwd cwdPath (config.sized millions)).1 = .error ⟨[], .overflow⟩) ∧
      (size < UInt64.size →
        (Service.setUp runner cwd cwdPath (config.sized millions)).1 = .ok (s.limited size) ∧
        (config.bodySize ≤ size → ∀ r, r.body.length ≤ config.bodySize →
          (x.limited size).handle r = ((x.handle r).1.limited size, (x.handle r).2))) := by
  obtain ⟨-, service⟩ := hx.sound
  obtain ⟨limit, fits⟩ := Service.bodyLimit_of_setUp hs
  rw [← limit] at fits ⊢
  refine ⟨⟨rfl, fits⟩, fun r => status_eq_413_iff service, fun r posts long => ?_,
    fun r boundary posts hb short => ?_, fun millions => ⟨Service.setUp_of_overflow hs,
      fun fits => ⟨Service.setUp_of_fits hs fits, fun le r short => ?_⟩⟩⟩
  · obtain ⟨text, demand⟩ := posts.demand_of_long long
    obtain ⟨response, trace⟩ := handle_of_demand_answered service demand posts.method
    exact ⟨by rw [response]; rfl, trace⟩
  · exact ⟨posts.route_eq rfl _, posts.method, boundary, hb, Service.formItems_of_short short _⟩
  · subst service
    exact handle_limited short (short.trans le)

/-! ### A size that fits and one that does not -/

/-- A service that takes a million octets takes no more. -/
theorem million_in_force : let x := create plainService .empty
    (x.handle (postedJson (List.replicate 1000001 0))).2.status = 413 ∧
      (x.handle (postedJson (List.replicate 1000000 0))).2.status ≠ 413 := by
  have size : plainConfig.bodySize = 1000000 := rfl
  have history : History (create plainService .empty) (create plainService .empty) := .refl
  obtain ⟨-, refused, -⟩ := body_limit_in_force create_plainConfig history
  have refused (n : Nat) := refused _ (posts_postedJson (.replicate n 0)) (isJson_postedJson _)
  simp only [body_postedJson, List.length_replicate, size] at refused
  exact ⟨(refused _).2 (by decide), fun h => absurd ((refused _).1 h) (by decide)⟩

/-- A document with a size for bodies that is no word in octets. -/
def hugeDocument : String :=
  "[app]\nlisten = \"\"\nmetrics_listen = \"\"\nmax_body_size_mb = 288230376151711744\n" ++
    "worker_threads = 1\n[uploads]\npath = \"uploads\"\n"

/-- The document is accepted, but whatever the image program does there is no service for it: the
program panics. With a size of one million octets there is one. -/
theorem huge_size_overflows :
    let config := plainConfig.sized 288230376151711744
    Config.ofText hugeDocument = .ok config ∧ ∀ runner : Program → Runner,
      (Service.setUp runner [] "/" config).1 = .error ⟨[], .overflow⟩ ∧
        ∃ s, (Service.setUp runner [] "/" plainConfig).1 = .ok s :=
  ⟨by decide +kernel, fun runner => ⟨Service.setUp_of_overflow (setUp_plainConfig runner)
    (by decide), _, setUp_plainConfig runner⟩⟩

end Exchange

end Http

end ImageGateway
