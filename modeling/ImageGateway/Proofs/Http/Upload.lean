import ImageGateway.Proofs.Files.Directories
import ImageGateway.Proofs.Files.Growth
import ImageGateway.Proofs.Http.Endpoints

/-!
Uploads in one directory. Each has two places there, one for its image and one for its output, and
no two of all these are the same (`Upload.input_ne_output`). The program is assumed to keep to the
output of the upload that it is called for (`Isolated`); then what it does is the same in all trees
that have grown at such places only (`Independent.effect`), and so is what is made of it
(`Independent.verdict_eq`, `Independent.reply_eq`).
-/

namespace ImageGateway.Http

/-- An upload with the number that its identifier is drawn with. -/
structure Upload where
  submission : Submission
  drawn : Nat

namespace Upload

variable (u : Upload) (s : Service) (D : Place)

def id : String := Uuid.v4 u.drawn

def inputName : String := UploadStore.name u.drawn u.submission.suffix

def outputName : String := UploadStore.outputName u.drawn u.submission.suffix

def inputPath : String := s.uploads.place u.id u.submission.suffix.text

def outputPath : String := Path.join s.uploads.path u.outputName

/-- The place of its image, if the directory for uploads is at `D`. -/
def input : Place := u.inputName :: D

def output : Place := u.outputName :: D

def image : Entry := .file u.submission.data defaultMode

/-- What is asked of the image program for it. -/
def work : ImageGateway.Request := u.submission.request (u.inputPath s)

variable {u s D} {v : Upload}

theorem work_inputImagePath : (u.work s).inputImagePath = u.inputPath s := by
  rw [work, Submission.request]

theorem work_mlConfig : (u.work s).mlConfig = u.submission.mlConfig := by
  rw [work, Submission.request]

/-! ## Names and places -/

theorem place_eq : s.uploads.place u.id u.submission.suffix.text =
    Path.join s.uploads.path u.inputName := rfl

theorem inputPath_eq : u.inputPath s = Path.join s.uploads.path u.inputName := rfl

theorem isName_inputName : Path.IsName u.inputName := UploadStore.isName_name _ _

theorem isName_outputName : Path.IsName u.outputName := UploadStore.isName_outputName _ _

theorem short_inputName : ¬ Path.maxName < octetLength u.inputName := UploadStore.short_name _ _

theorem short_outputName : ¬ Path.maxName < octetLength u.outputName :=
  UploadStore.short_outputName _ _

theorem id_prefix_inputName : u.id.toList <+: u.inputName.toList :=
  ⟨u.submission.suffix.text.toList, by simp [inputName, UploadStore.name, id]⟩

theorem id_prefix_outputName : u.id.toList <+: u.outputName.toList :=
  ⟨(outputMark ++ u.submission.suffix.text).toList, by
    simp [outputName, UploadStore.outputName, id]⟩

theorem input_inj (h : u.input D = v.input D) : u.id = v.id :=
  UploadStore.name_inj (List.cons.inj h).1

theorem output_inj (h : u.output D = v.output D) : u.id = v.id :=
  UploadStore.outputName_inj (List.cons.inj h).1

/-- No output is where an image is, whatever the suffixes. -/
theorem input_ne_output : u.input D ≠ v.output D := fun h =>
  UploadStore.name_ne_output (List.cons.inj h).1

/-- Paths in the directory are as different as the names. -/
theorem join_inj (ha : Path.isAbsolute s.uploads.path = true) {a b : String} (hna : Path.IsName a)
    (hnb : Path.IsName b) (h : Path.join s.uploads.path a = Path.join s.uploads.path b) :
    a = b :=
  hna.join_inj hnb (Path.ne_empty_of_isAbsolute ha) h

section

variable (ha : Path.isAbsolute s.uploads.path = true)

include ha

theorem inputPath_inj (h : u.inputPath s = v.inputPath s) : u.id = v.id := by
  rw [inputPath_eq, inputPath_eq] at h
  exact UploadStore.name_inj (join_inj ha isName_inputName isName_inputName h)

theorem outputPath_inj (h : u.outputPath s = v.outputPath s) : u.id = v.id :=
  UploadStore.outputName_inj (join_inj ha isName_outputName isName_outputName h)

theorem inputPath_ne_outputPath : u.inputPath s ≠ v.outputPath s := by
  intro h
  rw [inputPath_eq] at h
  exact UploadStore.name_ne_output (join_inj ha isName_inputName isName_outputName h)

end

end Upload

/-- The service when it is new, and the upload is about to come. -/
def Upload.exchange (u : Upload) (s : Service) (files : Files) : Exchange :=
  { Exchange.create s files with drawn := u.drawn }

/-- What an upload gets when it comes alone: received, worked on, and replied to. -/
def Service.alone (s : Service) (files : Files) (id : String) (r : Request) : Response :=
  match s.receive files id r with
  | (_, .answered response, _) => response
  | (fs, .work q wanted, _) =>
    let done := s.processor.process fs q
    (s.reply done.files wanted done.answer).1

/-- The places that belong to uploads in the directory `D`. -/
def Owned {ι : Type _} (upload : ι → Upload) (D p : Place) : Prop :=
  ∃ i, p = (upload i).input D ∨ p = (upload i).output D

/-- A tree that differs from `ready` at places of `W` only, and that has the image of the upload. -/
structure Upload.Stocked (u : Upload) (ready : Files) (W : Place → Prop) (D : Place)
    (fs : Files) : Prop where
  grown : ready.Grown W fs
  image : fs.get? (u.input D) = some u.image

/-- There is no output yet. -/
structure Upload.Fresh (u : Upload) (ready : Files) (W : Place → Prop) (D : Place)
    (fs : Files) : Prop extends u.Stocked ready W D fs where
  vacant : fs.get? (u.output D) = none

/-- Runs for an upload that keep to it: nothing but its output is written, and neither the answer
and the output nor what is found under the path of the output depend on anything at other places
of `W`. -/
structure Isolated (s : Service) (u : Upload) (ready : Files) (W : Place → Prop) (D : Place)
    (run : Files → Run) : Prop where
  writes : ∀ fs, u.Fresh ready W D fs → ∀ p, p ≠ u.output D →
    (run fs).files.get? p = fs.get? p
  depends : ∀ fs fs', u.Fresh ready W D fs → u.Fresh ready W D fs' →
    (run fs').answer = (run fs).answer ∧
      (run fs').files.get? (u.output D) = (run fs).files.get? (u.output D)
  found : ∀ before fs fs', u.Fresh ready W D before → u.Stocked ready W D fs →
    u.Stocked ready W D fs' →
    fs.get? (u.output D) = (run before).files.get? (u.output D) →
    fs'.get? (u.output D) = (run before).files.get? (u.output D) →
    fs'.find s.processor.cwd (u.outputPath s) = fs.find s.processor.cwd (u.outputPath s)

/-- What is found under the path of the output is a matter of its own only where the program leaves
a link there: otherwise the path leads to the place of the output in all those trees. -/
theorem Isolated.of_noLink {s : Service} {u : Upload} {ready : Files} {W : Place → Prop}
    {D : Place} {run : Files → Run} (free : ∀ p, W p → ready.get? p = none)
    (hD : ready.locate s.processor.cwd s.uploads.path true = .ok ⟨D, some .dir⟩)
    (writes : ∀ fs, u.Fresh ready W D fs → ∀ p, p ≠ u.output D →
      (run fs).files.get? p = fs.get? p)
    (depends : ∀ fs fs', u.Fresh ready W D fs → u.Fresh ready W D fs' →
      (run fs').answer = (run fs).answer ∧
        (run fs').files.get? (u.output D) = (run fs).files.get? (u.output D))
    (noLink : ∀ fs, u.Fresh ready W D fs → ∀ target,
      (run fs).files.get? (u.output D) ≠ some (.link target)) :
    Isolated s u ready W D run where
  writes := writes
  depends := depends
  found before _ _ hbefore hs hs' he he' :=
    Files.find_name_congr (hs.grown.locate_dir free hD) Upload.isName_outputName
      Upload.short_outputName (fun target => he ▸ noLink before hbefore target)
      (hs'.grown.locate_dir free hD) (he'.trans he.symm)

/-- The files when the directory for uploads has been asked for. -/
def Service.ready (s : Service) (files : Files) : Files :=
  (s.uploads.makeReady s.processor.cwd files).1

/-- Valid uploads with identifiers of their own, after which nothing is named when their directory
is there, and a program that keeps what it does for them apart. -/
structure Independent {ι : Type _} (s : Service) (files : Files) (request : ι → Request)
    (upload : ι → Upload) : Prop where
  absolute : Path.isAbsolute s.uploads.path = true
  demand : ∀ i, s.demand (request i) = .upload (upload i).submission
  distinct : ∀ i j, (upload i).id = (upload j).id → i = j
  unused : ∀ i name p, (upload i).id.toList <+: name.toList →
    (s.ready files).get? (name :: p) = none
  isolated : ∀ D, (s.ready files).locate s.processor.cwd s.uploads.path true = .ok ⟨D, some .dir⟩ →
    ∀ i c, ((upload i).work s).prepare = .ok c →
      Isolated s (upload i) (s.ready files) (Owned upload D) D (s.processor.runner.run c.args)

namespace Upload

/-- The files when nothing but the image of one upload has been stored. -/
def stocked (u : Upload) (ready : Files) (D : Place) : Files := ready.set (u.input D) u.image

theorem get?_input_stocked (u : Upload) (ready : Files) (D : Place) :
    (u.stocked ready D).get? (u.input D) = some u.image :=
  Files.get?_set_self _ _ (List.cons_ne_nil _ _)

/-- What becomes of the upload then. -/
def lone (u : Upload) (s : Service) (ready : Files) (D : Place) : Processed :=
  s.processor.process (u.stocked ready D) (u.work s)

end Upload

namespace Independent

variable {ι : Type _} {s : Service} {files fs : Files} {request : ι → Request}
  {upload : ι → Upload} {D : Place} {c : Prepared} {i j : ι}

section

variable (h : Independent s files request upload)

include h

theorem input_inj (hij : (upload i).input D = (upload j).input D) : i = j :=
  h.distinct i j (Upload.input_inj hij)

theorem output_inj (hij : (upload i).output D = (upload j).output D) : i = j :=
  h.distinct i j (Upload.output_inj hij)

theorem free (p : Place) (hp : Owned upload D p) : (s.ready files).get? p = none := by
  rcases hp with ⟨i, rfl | rfl⟩
  · exact h.unused i _ _ Upload.id_prefix_inputName
  · exact h.unused i _ _ Upload.id_prefix_outputName

theorem fresh_stocked : (upload i).Fresh (s.ready files) (Owned upload D) D
    ((upload i).stocked (s.ready files) D) where
  grown := (Files.Grown.refl _).set ⟨i, .inl rfl⟩
  image := Upload.get?_input_stocked _ _ _
  vacant := by
    rw [Upload.stocked, Files.get?_set_of_ne _ _ Upload.input_ne_output.symm]
    exact h.free _ ⟨i, .inr rfl⟩

theorem prepare (i : ι) : ∃ c, ((upload i).work s).prepare = .ok c ∧
    c.outputImagePath = (upload i).outputPath s := by
  obtain ⟨tokens, ht⟩ := Service.valid_of_demand (h.demand i)
  have valid : ((upload i).work s).prepare = .ok ⟨(upload i).outputPath s, tokens,
      [(upload i).inputPath s, (upload i).submission.mlConfig, (upload i).outputPath s] ++
        tokens⟩ :=
    Submission.prepare_place ht s.uploads (upload i).drawn
  refine ⟨_, valid, ?_⟩
  dsimp only

theorem resolve_outputPath :
    s.processor.resolve ((upload i).outputPath s) = (upload i).outputPath s :=
  Path.join_of_isAbsolute (Path.isAbsolute_join_left h.absolute)

theorem args_of_prepare (hc : ((upload i).work s).prepare = .ok c) : c.args =
    [(upload i).inputPath s, (upload i).submission.mlConfig, (upload i).outputPath s] ++
      c.optionTokens := by
  obtain ⟨c', hc', hpath⟩ := h.prepare i
  have same := Except.ok.inj (hc'.symm.trans hc)
  have args := (Request.prepare_eq_ok_iff.1 hc).2.2
  rwa [← same, hpath, same, Upload.work_inputImagePath, Upload.work_mlConfig] at args

variable (hD : (s.ready files).locate s.processor.cwd s.uploads.path true = .ok ⟨D, some .dir⟩)

include hD

/-- What the program does for an upload is the same wherever it can begin. -/
theorem effect (hf : (upload i).Fresh (s.ready files) (Owned upload D) D fs)
    (hc : ((upload i).work s).prepare = .ok c) :
    (s.processor.runner.run c.args fs).answer =
        (s.processor.runner.run c.args ((upload i).stocked (s.ready files) D)).answer ∧
      (s.processor.runner.run c.args fs).files.get? ((upload i).output D) =
        ((upload i).lone s (s.ready files) D).files.get? ((upload i).output D) := by
  rw [Upload.lone, Processor.files_process hc]
  exact (h.isolated D hD i c hc).depends _ _ h.fresh_stocked hf

theorem stocked_lone : (upload i).Stocked (s.ready files) (Owned upload D) D
    ((upload i).lone s (s.ready files) D).files := by
  obtain ⟨c, hc, -⟩ := h.prepare i
  have fresh : (upload i).Fresh (s.ready files) (Owned upload D) D _ := h.fresh_stocked
  have writes := (h.isolated D hD i c hc).writes _ fresh
  rw [Upload.lone, Processor.files_process hc]
  refine ⟨fun p hp => ?_, ?_⟩
  · rw [writes p fun e => hp ⟨i, .inr e⟩, fresh.grown p hp]
  · rw [writes _ Upload.input_ne_output, fresh.image]

theorem find_output (hs : (upload i).Stocked (s.ready files) (Owned upload D) D fs)
    (hout : fs.get? ((upload i).output D) =
      ((upload i).lone s (s.ready files) D).files.get? ((upload i).output D)) :
    fs.find s.processor.cwd ((upload i).outputPath s) =
      ((upload i).lone s (s.ready files) D).files.find s.processor.cwd
        ((upload i).outputPath s) := by
  obtain ⟨c, hc, -⟩ := h.prepare i
  have lone := h.stocked_lone hD (i := i)
  rw [Upload.lone, Processor.files_process hc] at hout lone ⊢
  exact (h.isolated D hD i c hc).found _ _ _ h.fresh_stocked lone hs rfl hout

/-- A run that has had its effect is judged as the run for the upload alone. -/
theorem verdict_eq {before : Files}
    (hf : (upload i).Fresh (s.ready files) (Owned upload D) D before)
    (hs : (upload i).Stocked (s.ready files) (Owned upload D) D fs)
    (hout : fs.get? ((upload i).output D) =
      ((upload i).lone s (s.ready files) D).files.get? ((upload i).output D)) :
    Pool.verdict s.processor fs (s.processor.attempt before ((upload i).work s)) =
      ((upload i).lone s (s.ready files) D).answer := by
  obtain ⟨c, hc, hpath⟩ := h.prepare i
  have answer := (h.effect hD hf hc).1
  have found := h.find_output hD hs hout
  have same : fs.isFile s.processor.cwd (s.processor.resolve c.outputImagePath) =
      ((upload i).lone s (s.ready files) D).files.isFile s.processor.cwd
        (s.processor.resolve c.outputImagePath) := by
    rw [hpath, h.resolve_outputPath, Files.isFile, found, Files.isFile]
  rw [Upload.lone, Processor.files_process hc] at same
  rw [Processor.attempt_of_prepare hc, Pool.verdict, Upload.lone, Processor.answer_process hc,
    Processor.conclude]
  simp only [answer, Processor.judge_congr same]

/-- The reply is the one to the upload alone, when its output is that of the upload alone. -/
theorem reply_eq (hs : (upload i).Stocked (s.ready files) (Owned upload D) D fs)
    (hout : fs.get? ((upload i).output D) =
      ((upload i).lone s (s.ready files) D).files.get? ((upload i).output D)) :
    (s.reply fs .image ((upload i).lone s (s.ready files) D).answer).1 =
      (s.reply ((upload i).lone s (s.ready files) D).files .image
        ((upload i).lone s (s.ready files) D).answer).1 := by
  obtain ⟨c, hc, hpath⟩ := h.prepare i
  have found := h.find_output hD hs hout
  cases hanswer : ((upload i).lone s (s.ready files) D).answer with
  | error e => rw [Service.reply_error, Service.reply_error]
  | ok path =>
    have hp : path = (upload i).outputPath s :=
      (Processor.path_of_answer_process hc hanswer).trans hpath
    have sent : s.sendImage fs path =
        s.sendImage ((upload i).lone s (s.ready files) D).files path :=
      Service.sendImage_congr (by rw [hp, h.resolve_outputPath, found])
    rw [Service.reply_image, Service.reply_image, sent]

/-- An image is stored at its place, or the path is one that can never be used. -/
theorem write_cases (i : ι) :
    (Path.Usable ((upload i).inputPath s) ∧
      ∀ fs, (s.ready files).Grown (Owned upload D) fs → fs.get? ((upload i).input D) = none →
        s.uploads.write s.processor.cwd fs (upload i).id (upload i).submission.suffix.text
            (upload i).submission.data =
          (fs.set ((upload i).input D) (upload i).image, .ok ((upload i).inputPath s))) ∨
    ∃ t, ∀ fs, s.uploads.write s.processor.cwd fs (upload i).id (upload i).submission.suffix.text
      (upload i).submission.data = (fs, .error t) := by
  rw [Upload.inputPath_eq]
  simp only [UploadStore.write, Upload.place_eq]
  by_cases hu : Path.Usable (Path.join s.uploads.path (upload i).inputName)
  · refine .inl ⟨hu, fun fs hg hfree => ?_⟩
    rw [Files.write_name (hg.locate_dir h.free hD) Upload.isName_inputName Upload.short_inputName
      hfree hu]
    rfl
  · right
    obtain ⟨e, he⟩ := Files.write_of_not_usable hu
    refine ⟨⟨[s!"failed to write file: {Path.join s.uploads.path (upload i).inputName}"], e⟩,
      fun fs => ?_⟩
    rw [he]

end

/-! ## Uploads that come alone -/

section

variable (h : Independent s files request upload) {t : Trouble} (text : String)

include h

theorem alone_of_unready
    (hm : s.uploads.makeReady s.processor.cwd files = (fs, .error t)) :
    s.alone files (upload i).id (request i) = (Error.internal text).response := by
  rw [Service.alone, Service.receive_of_upload _ _ (h.demand i)]
  simp only [Service.stage, UploadStore.store, hm]
  rfl

variable (hm : s.uploads.makeReady s.processor.cwd files = (s.ready files, .ok ()))

include hm

theorem alone_of_unwritten
    (hw : s.uploads.write s.processor.cwd (s.ready files) (upload i).id
      (upload i).submission.suffix.text (upload i).submission.data = (fs, .error t)) :
    s.alone files (upload i).id (request i) = (Error.internal text).response := by
  rw [Service.alone, Service.receive_of_upload _ _ (h.demand i)]
  simp only [Service.stage, UploadStore.store, hm, hw]
  rfl

theorem alone_of_written
    (hw : s.uploads.write s.processor.cwd (s.ready files) (upload i).id
        (upload i).submission.suffix.text (upload i).submission.data =
      ((upload i).stocked (s.ready files) D, .ok ((upload i).inputPath s))) :
    s.alone files (upload i).id (request i) =
      (s.reply ((upload i).lone s (s.ready files) D).files .image
        ((upload i).lone s (s.ready files) D).answer).1 := by
  rw [Service.alone, Service.receive_of_upload _ _ (h.demand i)]
  simp only [Service.stage, UploadStore.store, hm, hw]
  rfl

end

end Independent

attribute [irreducible] Upload.lone

end ImageGateway.Http
