import ImageGateway.Http.Message

/-!
The places of the service and what may be done at each. Pages are read, also for their headers
alone; the two ways of processing an image are posted to. The documentation is there only if it is
wanted.
-/

namespace ImageGateway.Http

inductive Route where
  | page
  | process
  | processImage
  | documentation
  | apiDocument
  deriving DecidableEq, Repr

namespace Route

/-- The path as it is registered; requests are counted under it. -/
def template : Route → String
  | page => "/"
  | process => "/api/v1/process"
  | processImage => "/api/v1/process-image"
  | documentation => "/redoc"
  | apiDocument => "/api-docs/openapi.json"

/-- The routes of a service with or without documentation. -/
def all (openApi : Bool) : List Route :=
  [page, process, processImage] ++ if openApi then [documentation, apiDocument] else []

def isPosted : Route → Bool
  | process | processImage => true
  | page | documentation | apiDocument => false

def methods (r : Route) : List String := if r.isPosted then ["POST"] else ["GET", "HEAD"]

/-- The methods as a response lists them. -/
def allow (r : Route) : String := ",".intercalate r.methods

/-- The route of a path, which has to be the same to the letter. -/
def of? (openApi : Bool) (path : String) : Option Route :=
  (all openApi).find? (·.template = path)

end Route

end ImageGateway.Http
