import ImageGateway.Http.Error
import ImageGateway.Http.Multipart
import ImageGateway.Request
import ImageGateway.Text.Charset
import ImageGateway.Uploads

/-!
The upload form. Its fields are taken in as they come: the last image that is not empty counts,
every option counts, and of the two paths the last one. An option that is unknown ends the reading
at once, and so does the place where the body is broken. Fields of other names do not matter.
-/

namespace ImageGateway.Http

structure Field where
  name : String
  fileName : Option String := none
  charset : Text.Charset := .utf8
  data : Bytes
  deriving DecidableEq, Repr

namespace Field

def ofPart (p : Multipart.Part) : Field :=
  let disposition := p.headers.get? "content-disposition"
  let label := p.headers.mediaType?.bind (·.parameter "charset")
  { name := (disposition.bind Disposition.name?).getD ""
    fileName := disposition.bind Disposition.fileName?
    charset := (label.bind Text.Charset.ofLabel?).getD .utf8
    data := p.data }

/-- The data as text. -/
def text (f : Field) : String := f.charset.decode f.data

end Field

/-- What has been taken in so far. -/
structure Form where
  /-- The image with the name of its file. -/
  image : Option (Bytes × Option String) := none
  options : List Flag := []
  mlConfig : Option String := none
  /-- Absent if it is blank. -/
  facialImgDir : Option String := none
  deriving DecidableEq, Repr

/-- A form with everything that an upload needs. -/
structure Submission where
  data : Bytes
  suffix : Suffix
  options : List Flag
  mlConfig : String
  facialImgDir : Option String
  deriving DecidableEq, Repr

/-- The request to the image program, once the image lies at a path. -/
def Submission.request (s : Submission) (path : String) : ImageGateway.Request :=
  ⟨path, s.options, s.mlConfig, s.facialImgDir⟩

namespace Form

/-- A body that is no sound list of parts, or too long. -/
def brokenBody : Error := .badRequest "Error parsing `multipart/form-data` request"

/-- Takes in one field. -/
def add (form : Form) (f : Field) : Except Error Form :=
  if f.name = "image" then
    .ok (if f.data = [] then form else { form with image := some (f.data, f.fileName) })
  else if f.name = "options" then
    let token := Text.trim f.text
    match Flag.ofToken? token with
    | some flag => .ok { form with options := form.options ++ [flag] }
    | none => .error (.ofFailure (.unknownOption token))
  else if f.name = "ml_config" then .ok { form with mlConfig := some f.text }
  else if f.name = "facial_img_dir" then
    .ok { form with facialImgDir := if Text.isBlank f.text then none else some f.text }
  else .ok form

/-- Takes in the items of a body in order. -/
def addItem (form : Form) : Multipart.Item → Except Error Form
  | .part p => form.add (.ofPart p)
  | .broken => .error brokenBody

def ofItems (items : List Multipart.Item) : Except Error Form := items.foldlM addItem {}

/-- Asks for the image first, then for its format, then for valid arguments. -/
def submission (form : Form) : Except Error Submission := do
  match form.image with
  | none => throw (.badRequest "missing image")
  | some (data, fileName) =>
    let config := form.mlConfig.getD ""
    let suffix ← (Suffix.detect data fileName).mapError .ofFailure
    let _ ← (checkArguments config form.options form.facialImgDir).mapError .ofFailure
    return ⟨data, suffix, form.options, config, form.facialImgDir⟩

end Form

end ImageGateway.Http
