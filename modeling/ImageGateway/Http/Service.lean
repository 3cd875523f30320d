import ImageGateway.Config
import ImageGateway.Http.ApiDocument
import ImageGateway.Http.Form
import ImageGateway.Http.Page
import ImageGateway.Processing
import ImageGateway.Program.Run
import ImageGateway.RequestJson

/-!
The service between clients and the image program. A request is first received: it is answered at
once, or there is work to do for it. The result of the work is then put into a response. Neither
step takes time, so queues and deadlines are no matter of this module.
-/

namespace ImageGateway.Http

structure Service where
  processor : Processor
  uploads : UploadStore
  /-- The longest body that is taken, in octets. -/
  bodyLimit : Nat
  workers : Nat
  /-- How long a client waits for an answer, in milliseconds. -/
  patience : Nat
  openApi : Bool

/-- What a client wants to have of the output image. -/
inductive Reply where
  /-- Its path, in a JSON document. -/
  | path
  /-- The image itself, with its path in a header. -/
  | image
  deriving DecidableEq, Repr

/-- What is to be done for a request. -/
inductive Received where
  | answered (response : Response)
  | work (request : ImageGateway.Request) (reply : Reply)

namespace Service

private def target : String := "kai_demo::http"

/-- The product of two words of 64 bits, if it is such a word itself. -/
def wordProduct? (m n : Nat) : Option Nat := if m * n < UInt64.size then some (m * n) else none

/-- The longest body for a size in millions of octets, if every product on the way is a word. -/
def limit? (millions : Nat) : Option Nat :=
  (wordProduct? millions 1000).bind (wordProduct? · 1000)

def defaultTimeoutSecs : Nat := 300

/-- A failure that is told as one step of the start. -/
def startTrouble (step : String) : Failure → Trouble
  | .launch program cause => ⟨[step, (Failure.launch program cause).message], cause⟩
  | e => ⟨[step], .other e.message⟩

/-- The service that is made of these parts, unless the limit for bodies is no word. -/
def assemble (processor : Processor) (uploads : UploadStore) (c : Config) :
    Except Trouble Service :=
  match limit? c.app.maxBodySizeMb with
  | none => .error ⟨[], .overflow⟩
  | some bodyLimit => .ok {
      processor := processor
      uploads := uploads
      bodyLimit := bodyLimit
      workers := c.app.workerThreads
      patience := c.app.requestTimeoutSecs.getD defaultTimeoutSecs * 1000
      openApi := c.app.enableOpenApi.getD false }

/-- Sets a service up from its configuration, and says what is logged on the way. `runner` is what
becomes of the image program when it is run. -/
def setUp (runner : Program → Runner) (cwd : Place) (cwdPath : String) (c : Config) :
    Except Trouble Service × List Log.Event :=
  match Program.create cwdPath c.program.workingDir c.program.executable with
  | .error e => (.error (startTrouble "failed to resolve KAI-impl working directory" e), [])
  | .ok program =>
    let located : Log.Event := ⟨.info, target, "KAI-impl location", [("program", .text program.path)]⟩
    match UploadStore.create cwdPath c.uploadsPath with
    | .error t => (.error (t.within "failed to resolve upload directory"), [located])
    | .ok uploads =>
      (assemble ⟨runner program, cwd⟩ uploads c,
        [located, ⟨.info, target, "upload directory", [("path", .text uploads.path)]⟩])

/-- Sets a service up that runs the image program as `Program.run` has it. -/
def create (cwd : Place) (cwdPath : String) (c : Config) :
    Except Trouble Service × List Log.Event :=
  setUp Program.runner cwd cwdPath c

/-! ## Reading requests -/

/-- The request in a JSON body. The media type counts before the length, and the length before
the content; what follows the document in the body does not matter. Of the two texts about the
content only the beginning is here: where the reader of JSON stopped, with line and column, is left
out, and so is what it says of a body that is no JSON. -/
def readRequest (s : Service) (r : Request) : Except Response ImageGateway.Request :=
  match r.headers.mediaType?.map MediaType.isJson with
  | some true =>
    if s.bodyLimit < r.body.length then
      .error (.plain 413 "Failed to buffer the request body: length limit exceeded")
    else
      match Json.decodeText false ImageGateway.Request.ofJson (Text.Utf8.decode r.body) with
      | .ok request => .ok request
      | .error .notJson => .error (.plain 400 "Failed to parse the request body as JSON")
      | .error (.mismatch path m) =>
        .error (.plain 422 ("Failed to deserialize the JSON body into the target type: " ++
          Json.Error.located path m))
  | _ => .error (.plain 415 "Expected request with `Content-Type: application/json`")

/-- The items of a form of at most this length; a longer one is broken from the start. -/
def formItems (limit : Nat) (boundary : String) (body : Bytes) : List Multipart.Item :=
  if limit < body.length then [.broken] else Multipart.items boundary body

/-- The upload in a form. -/
def readSubmission (s : Service) (r : Request) : Except Response Submission :=
  match r.headers.mediaType?.bind MediaType.boundary? with
  | none => .error (.plain 400 "Invalid `boundary` for `multipart/form-data` request")
  | some boundary =>
    ((Form.ofItems (formItems s.bodyLimit boundary r.body)).bind Form.submission).mapError
      Error.response

/-! ## Receiving -/

/-- The page that leads to the documents of the service. It stands for the page of the viewer for
such documents, whose text is the viewer's own and not modelled. -/
def documentationPage : String :=
  "<!DOCTYPE html>\n<html lang=\"en\">\n<head><title>KAI demo API</title></head>\n" ++
    "<body><a href=\"/api-docs/openapi.json\">KAI demo API</a></body>\n</html>\n"

private def html (body : Bytes) : Response := .typed 200 "text/html; charset=utf-8" body

/-- What a page shows. -/
def shown : Route → Response
  | .documentation => html (Text.Utf8.encode documentationPage)
  | .apiDocument =>
    .typed 200 "application/json" (Text.Utf8.encode (String.ofList ApiDocument.document))
  | _ => html Page.content

/-- What a request asks for, as far as that can be told without looking at a file. -/
inductive Demand where
  | answered (response : Response)
  | work (request : ImageGateway.Request) (reply : Reply)
  /-- An image is to be stored first. -/
  | upload (submission : Submission)
  deriving DecidableEq, Repr

/-- Finds out what a request asks for. -/
def demand (s : Service) (r : Request) : Demand :=
  match Route.of? s.openApi r.path with
  | none => .answered (.empty 404)
  | some route =>
    if !route.methods.contains r.method then .answered ⟨405, [("allow", route.allow)], []⟩
    else
      match route with
      | .process =>
        match s.readRequest r with
        | .error response => .answered response
        | .ok request => .work request .path
      | .processImage =>
        match s.readSubmission r with
        | .error response => .answered response
        | .ok u => .upload u
      | route => .answered (shown route)

/-- Stores the image of a submission under the given identifier. -/
def stage (s : Service) (fs : Files) (id : String) (u : Submission) :
    Files × Received × List Log.Event :=
  match s.uploads.store s.processor.cwd fs id u.suffix.text u.data with
  | (fs, .ok path, logs) => (fs, .work (u.request path) .image, logs)
  | (fs, .error t, logs) =>
    let e := Error.internal t.head
    (fs, .answered e.response, logs ++ e.logs)

/-- Decides what is to be done for a request. The identifier is for an upload, if it is one. -/
def receive (s : Service) (fs : Files) (id : String) (r : Request) :
    Files × Received × List Log.Event :=
  match s.demand r with
  | .answered response => (fs, .answered response, [])
  | .work request wanted => (fs, .work request wanted, [])
  | .upload u => s.stage fs id u

/-! ## Replies -/

private def imageTarget : String := "kai_demo::http::process_image"

/-- Sends the output image, read from where the program left it. -/
def sendImage (s : Service) (fs : Files) (path : String) : Response × List Log.Event :=
  let place := s.processor.resolve path
  match UploadStore.read s.processor.cwd fs place with
  | .error t =>
    let e := Error.internal t.head
    (e.response, ⟨.error, imageTarget, s!"failed to read KAI-impl output: {t.head}", []⟩ :: e.logs)
  | .ok data =>
    if isHeaderValue path then
      (⟨200, [("content-type", mediaTypeOf place), ("x-kai-output-path", path)], data⟩, [])
    else (.plain 500 "failed to parse header value", [])

/-- Puts the result of the work into a response. -/
def reply (s : Service) (fs : Files) (wanted : Reply) :
    Except Failure String → Response × List Log.Event
  | .error e => ((Error.ofFailure e).response, (Error.ofFailure e).logs)
  | .ok path =>
    match wanted with
    | .path =>
      let text := String.ofList (ImageGateway.Response.toJson ⟨path⟩)
      (.typed 200 "application/json" (Text.Utf8.encode text), [])
    | .image => s.sendImage fs path

end Service

end ImageGateway.Http
