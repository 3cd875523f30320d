import ImageGateway.Proofs.Http.Upload

/-!
What a client can bring about with the names and the content of its upload. The service itself
changes the files by missing directories on the way to the directory for uploads and by one file,
under a name that it has made up (`Stored`). Of the client's own name for the file nothing counts
but the suffix that is found with it: two forms that tell the same but for such names
(`unnamed_ofItems`) come to the same in every respect.
-/

namespace ImageGateway.Http

variable {s : Service} {fs fs' : Files} {n : Nat} {e : Suffix} {u : Submission} {p D : Place}
  {r r' : Request}

/-! ## Storing -/

/-- What the service may have done at a place: nothing, or it has made a directory on the way to
the one for uploads, or it has put the image there, where the path of the upload leads. That is in
the directory for uploads itself, unless a link had the name of the upload before, and it is a new
file if nothing had the name. -/
inductive Stored (s : Service) (n : Nat) (e : Suffix) (fs fs' : Files) (p : Place) : Prop where
  | same : fs'.get? p = fs.get? p → Stored s n e fs fs' p
  | directory {up : String} : fs.get? p = none → Path.Upward s.uploads.path up →
    fs'.locate s.processor.cwd up true = .ok ⟨p, some .dir⟩ → Stored s n e fs fs' p
  | image {D : Place} {data : Bytes} {mode : Nat} :
    fs'.locate s.processor.cwd s.uploads.path true = .ok ⟨D, some .dir⟩ →
    fs'.locate s.processor.cwd (Path.join s.uploads.path (UploadStore.name n e)) true =
      .ok ⟨p, some (.file data mode)⟩ →
    ((∀ target, (s.ready fs).get? (UploadStore.name n e :: D) ≠ some (.link target)) →
      p = UploadStore.name n e :: D) →
    ((s.ready fs).get? (UploadStore.name n e :: D) = none →
      fs.get? p = none ∧ mode = defaultMode) →
    Stored s n e fs fs' p

theorem made_ready (ha : Path.isAbsolute s.uploads.path = true) :
    Files.Made s.processor.cwd s.uploads.path fs (s.ready fs) :=
  UploadStore.made_of_makeReady ha Prod.mk.eta.symm

theorem stored_of_made (h : Files.Made s.processor.cwd s.uploads.path fs fs') :
    Stored s n e fs fs' p := by
  by_cases same : fs'.get? p = fs.get? p
  · exact .same same
  · obtain ⟨free, up, hup, hat⟩ := h p same
    exact .directory free hup hat

/-- The image is written into the directory that was made ready. -/
theorem stored_of_write (ha : Path.isAbsolute s.uploads.path = true)
    (hD : (s.ready fs).locate s.processor.cwd s.uploads.path true = .ok ⟨D, some .dir⟩)
    {data : Bytes} {answer : Except SystemFault Unit}
    (h : (s.ready fs).write s.processor.cwd (Path.join s.uploads.path (UploadStore.name n e)) data =
      (fs', answer)) : Stored s n e fs fs' p := by
  have made := @made_ready s fs ha
  rcases Files.written_of_write h with rfl | ⟨q, mode, written⟩
  · exact stored_of_made made
  by_cases hp : p = q
  · subst hp
    have place (hl : ∀ target,
        (s.ready fs).get? (UploadStore.name n e :: D) ≠ some (.link target)) :
        p = UploadStore.name n e :: D := by
      have named := Files.locate_name hD (UploadStore.isName_name n e)
        (UploadStore.short_name n e) hl (Files.usable_of_locate written.located)
      exact congrArg Spot.place (Except.ok.inj (written.located.symm.trans named))
    refine .image (written.keeps.locate_dir hD) written.locate place fun free => ?_
    rw [← place (by simp [free])] at free
    exact ⟨made.free free, written.mode_eq free⟩
  · have elsewhere := written.get?_of_ne hp
    by_cases same : (s.ready fs).get? p = fs.get? p
    · exact .same (elsewhere.trans same)
    · obtain ⟨free, up, hup, hdir⟩ := made p same
      exact .directory free hup (written.keeps.locate_dir hdir)

theorem files_stage (s : Service) (fs : Files) (id : String) (u : Submission) :
    (s.stage fs id u).1 = (s.uploads.store s.processor.cwd fs id u.suffix.text u.data).1 := by
  rw [Service.stage]
  split <;> rename_i h <;> rw [h]

theorem stored_of_stage (ha : Path.isAbsolute s.uploads.path = true) :
    Stored s n u.suffix fs (s.stage fs (Uuid.v4 n) u).1 p := by
  rw [files_stage]
  rcases s.uploads.files_store s.processor.cwd fs (Uuid.v4 n) u.suffix.text u.data with
    h | ⟨hok, h⟩
  · rw [h]
    exact stored_of_made (made_ready ha)
  · have ready : s.uploads.makeReady s.processor.cwd fs = (s.ready fs, .ok ()) :=
      Prod.ext rfl hok
    obtain ⟨D, hD⟩ := Files.isDir_iff.1 (UploadStore.isDir_of_makeReady ha ready)
    rw [h]
    exact stored_of_write ha hD (Prod.mk.eta).symm

namespace Exchange

variable {x : Exchange} {files : Files}

/-- When a request is received, only its image is stored, if it is an upload. -/
theorem stored_received (hx : x.service = s) (ha : Path.isAbsolute s.uploads.path = true)
    (r : Request) : ∃ e, ∀ p, Stored s x.drawn e x.pool.files (x.received r).pool.files p := by
  have received : (x.received r).pool.files = (s.receive x.pool.files (Uuid.v4 x.drawn) r).1 := by
    rw [Exchange.received, hx]
  rw [received, Service.receive]
  cases s.demand r with
  | answered | work => exact ⟨.jpg, fun _ => .same rfl⟩
  | upload u => exact ⟨u.suffix, fun _ => stored_of_stage ha⟩

/-- From then on the files change only by calls of the program that come to their end. -/
theorem handle_carried (hx : History (create s files) x) (r : Request) :
    ∃ cs : List Call, (cs.map (·.ticket)).Nodup ∧
      (∀ c ∈ cs, c ∈ (x.handle r).1.pool.calls ∧ c.ticket ∉ x.pool.past) ∧
      (x.handle r).1.pool.files =
        cs.foldl (Pool.carried s.processor) (x.received r).pool.files := by
  obtain ⟨sound, service⟩ := hx.sound
  cases hreceive : (x.service.receive x.pool.files (Uuid.v4 x.drawn) r).2.1 with
  | answered response =>
    have hrespond := respond_of_answered hreceive
    obtain ⟨-, hfiles, -, -⟩ := handle_spec s.processor x r
    exact ⟨[], List.nodup_nil, nofun, by rw [hfiles, hrespond]; rfl⟩
  | work q wanted =>
    obtain ⟨steps, -⟩ := handle_work service hreceive
    have soundReceived := Pool.Changes.sound (received_changes s.processor x r) sound
    obtain ⟨cs, hnodup, hcs, hfiles⟩ := Pool.Steps.files steps (soundReceived.submit q)
    exact ⟨cs, hnodup, fun c hc => ⟨(hcs c hc).1, (hcs c hc).2.1⟩, hfiles⟩

end Exchange

/-! ## Names of files -/

/-- A field without the name of a file. -/
def Field.unnamed (f : Field) : Field := { f with fileName := none }

/-- A form without the name of the image. -/
def Form.unnamed (form : Form) : Form :=
  { form with image := form.image.map fun image => (image.1, none) }

/-- What an item of a body tells, the name of a file aside. -/
def told : Multipart.Item → Option Field
  | .part p => some (Field.ofPart p).unnamed
  | .broken => none

namespace Form

variable {form form' : Form} {items items' : List Multipart.Item}

def addTold (form : Form) : Option Field → Except Error Form
  | some f => form.add f
  | none => .error brokenBody

theorem map_unnamed_add (form : Form) (f : Field) :
    (form.add f).map unnamed = form.unnamed.add f.unnamed := by
  have text : f.unnamed.text = f.text := rfl
  have name : f.unnamed.name = f.name := rfl
  have data : f.unnamed.data = f.data := rfl
  rw [add, add, name, data, text]
  by_cases image : f.name = "image"
  · rw [if_pos image, if_pos image]
    by_cases empty : f.data = []
    · rw [if_pos empty, if_pos empty]
      rfl
    · rw [if_neg empty, if_neg empty]
      rfl
  rw [if_neg image, if_neg image]
  by_cases options : f.name = "options"
  · rw [if_pos options, if_pos options]
    dsimp only
    cases Flag.ofToken? (Text.trim f.text) <;> rfl
  rw [if_neg options, if_neg options]
  by_cases config : f.name = "ml_config"
  · rw [if_pos config, if_pos config]
    rfl
  rw [if_neg config, if_neg config]
  by_cases dir : f.name = "facial_img_dir"
  · rw [if_pos dir, if_pos dir]
    rfl
  · rw [if_neg dir, if_neg dir]
    rfl

theorem map_unnamed_addItem (form : Form) (item : Multipart.Item) :
    (form.addItem item).map unnamed = form.unnamed.addTold (told item) := by
  cases item with
  | part p => exact map_unnamed_add form _
  | broken => rfl

theorem map_unnamed_foldlM (items : List Multipart.Item) (form : Form) :
    (items.foldlM addItem form).map unnamed = (items.map told).foldlM addTold form.unnamed := by
  induction items generalizing form with
  | nil => rfl
  | cons item items ih =>
    rw [List.foldlM_cons, List.map_cons, List.foldlM_cons, ← map_unnamed_addItem]
    cases form.addItem item with
    | error e => rfl
    | ok form => exact ih form

/-- A form goes by what its items tell, but for the name of the image. -/
theorem unnamed_ofItems (h : items.map told = items'.map told) :
    (ofItems items).map unnamed = (ofItems items').map unnamed := by
  rw [ofItems, ofItems, map_unnamed_foldlM, map_unnamed_foldlM, h]

/-- The name of the image counts only for the suffix that is found with it. -/
theorem submission_congr (h : form.unnamed = form'.unnamed)
    (hs : ∀ data name name', form.image = some (data, name) → form'.image = some (data, name') →
      Suffix.detect data name = Suffix.detect data name') :
    form.submission = form'.submission := by
  obtain ⟨image, options, mlConfig, dir⟩ := form
  obtain ⟨image', options', mlConfig', dir'⟩ := form'
  simp only [unnamed, Form.mk.injEq] at h
  obtain ⟨himage, rfl, rfl, rfl⟩ := h
  cases image with
  | none =>
    cases image' with
    | none => rfl
    | some => cases himage
  | some image =>
    cases image' with
    | none => cases himage
    | some image' =>
      obtain ⟨data, name⟩ := image
      obtain ⟨data', name'⟩ := image'
      simp only [Option.map_some, Option.some.injEq, Prod.mk.injEq, and_true] at himage
      subst himage
      simp only [submission, hs data name name' rfl rfl]

end Form

/-! ## Two uploads -/

namespace Exchange

open Service

variable {x : Exchange} {files : Files} {items items' : List Multipart.Item}

/-- Requests that are received alike, and counted alike, are answered alike. -/
theorem handle_congr (hr : x.service.receive x.pool.files (Uuid.v4 x.drawn) r =
      x.service.receive x.pool.files (Uuid.v4 x.drawn) r')
    (hm : r.method = r'.method) (hp : pathLabel x.service r = pathLabel x.service r') :
    x.handle r = x.handle r' := by
  have hreceived : x.received r = x.received r' := by simp only [received, hr]
  have hrespond : x.respond r = x.respond r' := by
    rw [respond_eq, respond_eq, hr, hreceived]
  have service (r : Request) : (x.respond r).1.service = x.service := (respond_changes rfl r).2
  rw [handle, handle, hrespond]
  simp only [recordings, service, hm, hp]

/-- Uploads that are received alike are handled alike. -/
theorem handle_congr_of_offers (ho : x.service.Offers r items) (ho' : x.service.Offers r' items')
    (hr : x.service.receive x.pool.files (Uuid.v4 x.drawn) r =
      x.service.receive x.pool.files (Uuid.v4 x.drawn) r') : x.handle r = x.handle r' := by
  refine handle_congr hr ?_ ?_
  · rw [ho.method, ho'.method]
  · rw [pathLabel, pathLabel, ho.route, ho'.route]
    rfl

theorem demand_eq_of_told (ho : s.Offers r items) (ho' : s.Offers r' items')
    (ht : items.map told = items'.map told)
    (hs : ∀ form form' data name name', Form.ofItems items = .ok form →
      Form.ofItems items' = .ok form' → form.image = some (data, name) →
      form'.image = some (data, name') → Suffix.detect data name = Suffix.detect data name') :
    s.demand r = s.demand r' := by
  have unnamed := Form.unnamed_ofItems ht
  have same : (Form.ofItems items).bind Form.submission =
      (Form.ofItems items').bind Form.submission := by
    cases hf : Form.ofItems items with
    | error e =>
      cases hf' : Form.ofItems items' with
      | error e' =>
        rw [hf, hf'] at unnamed
        cases unnamed
        rfl
      | ok form' =>
        rw [hf, hf'] at unnamed
        cases unnamed
    | ok form =>
      cases hf' : Form.ofItems items' with
      | error e' =>
        rw [hf, hf'] at unnamed
        cases unnamed
      | ok form' =>
        rw [hf, hf'] at unnamed
        exact Form.submission_congr (Except.ok.inj unnamed) fun data name name' =>
          hs form form' data name name' hf hf'
  rw [ho.demand_eq, ho'.demand_eq, same]

/-- A client has no say in where its upload goes. Whatever it sends, the service itself changes
nothing but missing directories on the way to the directory for uploads, as long as that is known
by an absolute path, and one file, whose name is an identifier of version 4 with one of the four
suffixes; all else that changes is what calls of the program do. And two uploads that tell the same
but for names of files, with the same suffix found for their images, are the same to the service:
what is stored, the request to the program and all that comes after it, the response among it. -/
theorem upload_confined (absolute : Path.isAbsolute s.uploads.path = true)
    (hx : History (create s files) x) :
    Uuid.IsV4 (Uuid.v4 x.drawn) ∧
    (∀ r, (∃ e, ∀ p, Stored s x.drawn e x.pool.files (x.received r).pool.files p) ∧
      ∃ cs : List Call, (cs.map (·.ticket)).Nodup ∧
        (∀ c ∈ cs, c ∈ (x.handle r).1.pool.calls ∧ c.ticket ∉ x.pool.past) ∧
        (x.handle r).1.pool.files =
          cs.foldl (Pool.carried s.processor) (x.received r).pool.files) ∧
    ∀ r r' items items', s.Offers r items → s.Offers r' items' →
      items.map told = items'.map told →
      (∀ form form' data name name', Form.ofItems items = .ok form →
        Form.ofItems items' = .ok form' → form.image = some (data, name) →
        form'.image = some (data, name') → Suffix.detect data name = Suffix.detect data name') →
      s.receive x.pool.files (Uuid.v4 x.drawn) r = s.receive x.pool.files (Uuid.v4 x.drawn) r' ∧
        x.handle r = x.handle r' := by
  obtain ⟨-, service⟩ := hx.sound
  refine ⟨Uuid.isV4_v4 _,
    fun r => ⟨stored_received service absolute r, handle_carried hx r⟩, ?_⟩
  intro r r' items items' ho ho' ht hdetect
  have received : s.receive x.pool.files (Uuid.v4 x.drawn) r =
      s.receive x.pool.files (Uuid.v4 x.drawn) r' := by
    rw [Service.receive, Service.receive, demand_eq_of_told ho ho' ht hdetect]
  subst service
  exact ⟨received, handle_congr_of_offers ho ho' received⟩

/-! ### A name that leads elsewhere -/

/-- The small upload with another name for its file. -/
def strayUpload : Request :=
  { plainUpload with
    body := Text.Utf8.encode ("--b\r\n" ++
      "content-disposition: form-data; name=\"image\"; filename=\"../../b.png\"\r\n\r\nx\r\n--b\r\n" ++
      "content-disposition: form-data; name=\"ml_config\"\r\n\r\nm\r\n--b--\r\n") }

theorem offers_strayUpload : plainService.Offers strayUpload
    (formItems 1000000 "b" strayUpload.body) :=
  offers_of_head rfl rfl rfl rfl

theorem items_strayUpload : formItems 1000000 "b" strayUpload.body =
    [.part ⟨[("content-disposition",
        Text.Utf8.encode "form-data; name=\"image\"; filename=\"../../b.png\"")], [120]⟩,
      .part ⟨[("content-disposition", Text.Utf8.encode "form-data; name=\"ml_config\"")],
        [109]⟩] := by decide +kernel

theorem form_strayUpload : Form.ofItems (formItems 1000000 "b" strayUpload.body) =
    .ok { image := some ([120], some "../../b.png"), mlConfig := some "m" } := by
  rw [items_strayUpload]
  decide +kernel

theorem told_strayUpload : (formItems 1000000 "b" strayUpload.body).map told =
    (formItems 1000000 "b" plainUpload.body).map told := by
  rw [items_strayUpload, items_plainUpload]
  decide +kernel

theorem strayUpload_confined :
    let x := create plainService .empty
    (∃ e, ∀ p, Stored plainService x.drawn e x.pool.files (x.received strayUpload).pool.files p) ∧
      x.handle strayUpload = x.handle plainUpload := by
  have absolute := Service.isAbsolute_uploads create_plainConfig (by decide)
  obtain ⟨-, confined, blind⟩ := upload_confined absolute .refl
  refine ⟨(confined strayUpload).1, ?_⟩
  refine (blind strayUpload plainUpload _ _ offers_strayUpload (offers_plainUpload rfl)
    told_strayUpload ?_).2
  intro form form' data name name' hform hform' himage himage'
  rw [form_strayUpload] at hform
  rw [form_plainUpload] at hform'
  cases hform
  cases hform'
  cases himage
  cases himage'
  decide

end Exchange

end ImageGateway.Http
