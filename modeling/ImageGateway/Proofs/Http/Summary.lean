import ImageGateway.Proofs.Http.Classification
import ImageGateway.Proofs.Http.Confinement

/-!
What counts of a form. Its fields are taken in one by one, and reading may end in the middle; yet
all that comes of them is told by their summary: the last image that is not empty, the texts of
the options, and the last text for each of the two paths (`Form.foldlM_add`). So an upload goes
alike for all lists of fields with one summary, whatever stands between these fields and however
those of different names are mixed (`Exchange.upload_goes_by_summary`).
-/

namespace ImageGateway.Http

variable {f : Field} {fields fields' front back : List Field}

/-! ## Summaries -/

/-- What counts of the fields of a form. -/
structure Summary where
  /-- The last image that is not empty, with the name of its file. -/
  image : Option (Bytes × Option String)
  /-- The texts of all options in order. -/
  options : List String
  /-- The last path of a configuration, white or not. -/
  mlConfig : Option String
  /-- The last path of a face library, unless it is white. -/
  facialImgDir : Option String
  deriving DecidableEq

namespace Summary

/-- The texts of the fields of a name in order. -/
def texts (name : String) (fields : List Field) : List String :=
  (fields.filter (·.name = name)).map Field.text

/-- The images that are not empty in order, each with the name of its file. -/
def images (fields : List Field) : List (Bytes × Option String) :=
  ((fields.filter (·.name = "image")).filter (·.data ≠ [])).map fun f => (f.data, f.fileName)

def ofFields (fields : List Field) : Summary where
  image := (images fields).getLast?
  options := texts "options" fields
  mlConfig := (texts "ml_config" fields).getLast?
  facialImgDir := (texts "facial_img_dir" fields).getLast?.bind fun dir =>
    if Text.isBlank dir then none else some dir

/-- The names of the fields that count. -/
def names : List String := ["image", "options", "ml_config", "facial_img_dir"]

/-- The flag that the text of an option stands for, white space around it aside. -/
def flag (text : String) : Except Error Flag :=
  match Flag.ofToken? (Text.trim text) with
  | some f => .ok f
  | none => .error (.ofFailure (.unknownOption (Text.trim text)))

/-- The form with this summary, when its options are these flags. -/
def formWith (g : Summary) (options : List Flag) : Form where
  image := g.image
  options := options
  mlConfig := g.mlConfig
  facialImgDir := g.facialImgDir

/-- The form with this summary, unless an option is unknown. -/
def form (g : Summary) : Except Error Form := g.formWith <$> g.options.mapM flag

/-- What an upload with this summary asks for. -/
def demand (g : Summary) : Service.Demand :=
  match g.form.bind Form.submission with
  | .ok u => .upload u
  | .error e => .answered e.response

/-! ### One more field -/

theorem texts_snoc (name : String) (fields : List Field) (f : Field) :
    texts name (fields ++ [f]) = texts name fields ++ if f.name = name then [f.text] else [] := by
  rw [texts, texts, List.filter_append, List.map_append]
  by_cases h : f.name = name <;> simp [h]

theorem images_snoc (fields : List Field) (f : Field) :
    images (fields ++ [f]) = images fields ++
      if f.name = "image" ∧ f.data ≠ [] then [(f.data, f.fileName)] else [] := by
  rw [images, images, List.filter_append, List.filter_append, List.map_append]
  by_cases name : f.name = "image"
  · by_cases data : f.data = [] <;> simp [name, data]
  · simp [name]

theorem options_snoc (h : f.name = "options") :
    (ofFields (fields ++ [f])).options = (ofFields fields).options ++ [f.text] := by
  simp only [ofFields, texts_snoc, if_pos h]

theorem options_snoc_other (h : f.name ≠ "options") :
    (ofFields (fields ++ [f])).options = (ofFields fields).options := by
  simp only [ofFields, texts_snoc, if_neg h, List.append_nil]

/-- Only an option can be refused. -/
theorem add_formWith_other (h : f.name ≠ "options") (options : List Flag) :
    ((ofFields fields).formWith options).add f =
      .ok ((ofFields (fields ++ [f])).formWith options) := by
  simp only [formWith, ofFields, texts_snoc, images_snoc, Form.add, if_neg h]
  by_cases image : f.name = "image"
  · by_cases empty : f.data = [] <;> simp [image, empty]
  by_cases config : f.name = "ml_config"
  · simp [config]
  by_cases dir : f.name = "facial_img_dir"
  · simp [dir]
  · simp [image, config, dir]

theorem add_formWith_option (h : f.name = "options") (options : List Flag) :
    ((ofFields fields).formWith options).add f = (flag f.text).map fun flag =>
      (ofFields (fields ++ [f])).formWith (options ++ [flag]) := by
  simp only [formWith, ofFields, texts_snoc, images_snoc, Form.add, flag, h]
  cases Flag.ofToken? (Text.trim f.text) <;> simp [Except.map]

/-- A further field is added to the form of the fields before it; an option that was unknown
before stays the error. -/
theorem form_snoc (fields : List Field) (f : Field) :
    (ofFields (fields ++ [f])).form = (ofFields fields).form >>= fun form => form.add f := by
  by_cases option : f.name = "options"
  · rw [form, form, options_snoc option, List.mapM_append]
    cases (ofFields fields).options.mapM flag with
    | error e => rfl
    | ok flags =>
      have added : (Except.ok ((ofFields fields).formWith flags) >>= fun form => form.add f) =
          (flag f.text).map fun flag => (ofFields (fields ++ [f])).formWith (flags ++ [flag]) :=
        add_formWith_option option flags
      refine Eq.trans ?_ added.symm
      rw [List.mapM_cons, List.mapM_nil]
      cases flag f.text <;> rfl
  · rw [form, form, options_snoc_other option]
    cases (ofFields fields).options.mapM flag with
    | error e => rfl
    | ok flags => exact (add_formWith_other option flags).symm

end Summary

/-! ## Forms -/

namespace Form

/-- Taking in fields one by one gives the form with their summary. -/
theorem foldlM_add (fields : List Field) :
    fields.foldlM Form.add {} = (Summary.ofFields fields).form := by
  induction fields using List.reverseRecOn with
  | nil => rfl
  | append_singleton fields f ih =>
    rw [List.foldlM_append, ih, Summary.form_snoc]
    simp only [List.foldlM_cons, List.foldlM_nil, bind_pure]

theorem ofItems_parts (parts : List Multipart.Part) :
    ofItems (parts.map .part) = (Summary.ofFields (parts.map Field.ofPart)).form := by
  rw [← foldlM_add, ofItems, List.foldlM_map, List.foldlM_map]
  rfl

end Form

namespace Summary

/-- Of fields with different names the order does not count. -/
theorem ofFields_congr (h : ∀ name ∈ names,
    fields.filter (·.name = name) = fields'.filter (·.name = name)) :
    ofFields fields = ofFields fields' := by
  have same {name : String} (hn : name ∈ names) : texts name fields = texts name fields' := by
    rw [texts, texts, h name hn]
  have image : images fields = images fields' := by
    rw [images, images, h "image" (by simp [names])]
  simp only [ofFields, image, same (show "options" ∈ names by simp [names]),
    same (show "ml_config" ∈ names by simp [names]),
    same (show "facial_img_dir" ∈ names by simp [names])]

/-- A field of another name does not count. -/
theorem ofFields_insert (h : f.name ∉ names) :
    ofFields (front ++ f :: back) = ofFields (front ++ back) := by
  refine ofFields_congr fun name hn => ?_
  have other : f.name ≠ name := by
    rintro rfl
    exact h hn
  rw [List.filter_append, List.filter_append, List.filter_cons_of_neg (by simpa using other)]

/-- The first unknown option is the error, whatever comes after it. -/
theorem mapM_flag_of_find? {texts : List String} {t : String}
    (h : texts.find? (fun t => Flag.ofToken? (Text.trim t) = none) = some t) :
    texts.mapM flag = .error (.ofFailure (.unknownOption (Text.trim t))) := by
  induction texts with
  | nil => cases h
  | cons text texts ih =>
    rw [List.mapM_cons]
    cases ht : Flag.ofToken? (Text.trim text) with
    | none =>
      rw [List.find?_cons_of_pos (by simpa using ht)] at h
      cases h
      rw [flag, ht]
      rfl
    | some f =>
      rw [List.find?_cons_of_neg (by simp [ht])] at h
      rw [flag, ht, ih h]
      rfl

theorem form_of_find? {g : Summary} {t : String}
    (h : g.options.find? (fun t => Flag.ofToken? (Text.trim t) = none) = some t) :
    g.form = .error (.ofFailure (.unknownOption (Text.trim t))) := by
  rw [form, mapM_flag_of_find? h]
  rfl

end Summary

/-! ## Uploads -/

variable {s : Service} {r r' : Request}

namespace Service

/-- The request is an upload of these fields: its body is sound and not too long. -/
def Carries (s : Service) (r : Request) (fields : List Field) : Prop :=
  ∃ parts : List Multipart.Part, s.Offers r (parts.map .part) ∧ parts.map Field.ofPart = fields

theorem Carries.demand_eq (h : s.Carries r fields) :
    s.demand r = (Summary.ofFields fields).demand := by
  obtain ⟨parts, offers, rfl⟩ := h
  rw [offers.demand_eq, Form.ofItems_parts, Summary.demand]
  cases (Summary.ofFields (parts.map Field.ofPart)).form.bind Form.submission <;> rfl

/-- Uploads with one summary are received alike. -/
theorem Carries.receive_congr (h : s.Carries r fields) (h' : s.Carries r' fields')
    (same : Summary.ofFields fields = Summary.ofFields fields') (fs : Files) (id : String) :
    s.receive fs id r = s.receive fs id r' := by
  rw [receive, receive, h.demand_eq, h'.demand_eq, same]

end Service

namespace Exchange

variable {x : Exchange}

theorem handle_congr_of_carries (h : x.service.Carries r fields)
    (h' : x.service.Carries r' fields')
    (same : Summary.ofFields fields = Summary.ofFields fields') : x.handle r = x.handle r' := by
  have received := h.receive_congr h' same x.pool.files (Uuid.v4 x.drawn)
  obtain ⟨_, offers, -⟩ := h
  obtain ⟨_, offers', -⟩ := h'
  exact handle_congr_of_offers offers offers' received

theorem handle_of_unknown {t : String} (h : x.service.Carries r fields)
    (ht : (Summary.ofFields fields).options.find?
      (fun t => Flag.ofToken? (Text.trim t) = none) = some t) :
    (x.handle r).2 = .plain 400 (Failure.unknownOption (Text.trim t)).message ∧
      (x.handle r).1.pool.files = x.pool.files ∧
      (x.handle r).1.pool.tickets = x.pool.tickets := by
  obtain ⟨parts, offers, rfl⟩ := h
  have refused : (Form.ofItems (parts.map .part)).bind Form.submission =
      .error (.ofFailure (.unknownOption (Text.trim t))) := by
    rw [Form.ofItems_parts, Summary.form_of_find? ht]
    rfl
  have demand := offers.demand_eq
  rw [refused] at demand
  obtain ⟨tickets, files⟩ := handle_answered (Service.receive_of_answered _ _ demand)
  exact ⟨response_of_refused rfl offers refused, files, tickets⟩

/-- An upload goes by the summary of its fields: by the last image that is not empty with the name
of its file, by the texts of its options in order, by the last path of a configuration, and by the
last path of a face library, which counts as none if it is white. Two uploads with one summary are
stored alike, ask the same of the image program, and have the same response and the same files
after them. Fields of other names have no part in the summary, and how fields of different names
are mixed has none either. The first option that is unknown is the client's error, whatever else is
wrong with the form; nothing is stored and nothing is handed to the workers then. -/
theorem upload_goes_by_summary (x : Exchange) :
    (∀ fields : List Field, fields.foldlM Form.add {} = (Summary.ofFields fields).form) ∧
    (∀ r r' fields fields', x.service.Carries r fields → x.service.Carries r' fields' →
      Summary.ofFields fields = Summary.ofFields fields' →
      x.service.receive x.pool.files (Uuid.v4 x.drawn) r =
        x.service.receive x.pool.files (Uuid.v4 x.drawn) r' ∧ x.handle r = x.handle r') ∧
    (∀ fields fields' : List Field, (∀ name ∈ Summary.names,
        fields.filter (·.name = name) = fields'.filter (·.name = name)) →
      Summary.ofFields fields = Summary.ofFields fields') ∧
    (∀ (front : List Field) (f : Field) (back : List Field), f.name ∉ Summary.names →
      Summary.ofFields (front ++ f :: back) = Summary.ofFields (front ++ back)) ∧
    (∀ r fields t, x.service.Carries r fields →
      (Summary.ofFields fields).options.find? (fun t => Flag.ofToken? (Text.trim t) = none) =
        some t →
      (x.handle r).2 = .plain 400 (Failure.unknownOption (Text.trim t)).message ∧
        (x.handle r).1.pool.files = x.pool.files ∧
        (x.handle r).1.pool.tickets = x.pool.tickets) := by
  refine ⟨Form.foldlM_add, fun r r' fields fields' h h' same => ⟨?_, ?_⟩,
    fun _ _ => Summary.ofFields_congr, fun _ _ _ => Summary.ofFields_insert,
    fun _ _ _ => handle_of_unknown⟩
  · exact h.receive_congr h' same _ _
  · exact handle_congr_of_carries h h' same

/-! ### Small uploads -/

open Service

/-- Fields, each by what its disposition says and by its text. -/
abbrev Entries := List (String × String)

def Entries.parts (fields : Entries) : List Multipart.Part :=
  fields.map fun (disposition, text) =>
    ⟨[("content-disposition", Text.Utf8.encode ("form-data; " ++ disposition))],
      Text.Utf8.encode text⟩

/-- The small upload with these fields in its place. -/
def Entries.upload (fields : Entries) : Request :=
  { plainUpload with
    body := Text.Utf8.encode (String.join (fields.map fun (disposition, text) =>
      "--b\r\ncontent-disposition: form-data; " ++ disposition ++ "\r\n\r\n" ++ text ++ "\r\n") ++
      "--b--\r\n") }

theorem Entries.carries {fields : Entries}
    (h : formItems 1000000 "b" fields.upload.body = fields.parts.map .part) :
    plainService.Carries fields.upload (fields.parts.map Field.ofPart) :=
  ⟨fields.parts, h ▸ offers_of_head rfl rfl rfl rfl, rfl⟩

def plainFields : Entries :=
  [("name=\"image\"; filename=\"a.png\"", "x"), ("name=\"ml_config\"", "m")]

/-- The same in another order, with an empty image at the end. -/
def mixedFields : Entries :=
  [("name=\"ml_config\"", "m"), ("name=\"image\"; filename=\"a.png\"", "x"), ("name=\"image\"", "")]

/-- No image, and a second option that is unknown. -/
def oddFields : Entries :=
  [("name=\"options\"", " -MLConfig"), ("name=\"options\"", " -mlconfig ")]

theorem mixedFields_as_plainFields :
    let x := create plainService .empty
    x.handle mixedFields.upload = x.handle plainFields.upload ∧
      (x.handle oddFields.upload).2 = .plain 400 "unknown option: -mlconfig" := by
  have plain := plainFields.carries (by decide +kernel)
  have mixed := mixedFields.carries (by decide +kernel)
  have odd := oddFields.carries (by decide +kernel)
  obtain ⟨-, same, -, -, unknown⟩ := upload_goes_by_summary (create plainService .empty)
  have message : (Failure.unknownOption (Text.trim " -mlconfig ")).message =
      "unknown option: -mlconfig" := by decide +kernel
  refine ⟨(same _ _ _ _ mixed plain (by decide +kernel)).2, ?_⟩
  rw [← message]
  exact (unknown _ _ " -mlconfig " odd (by decide +kernel)).1

end Exchange

end ImageGateway.Http
