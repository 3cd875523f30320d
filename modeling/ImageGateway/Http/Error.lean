import ImageGateway.Failure
import ImageGateway.Http.Message
import ImageGateway.Log

/-!
Errors as clients see them. Bad requests and failures of the image program show their text;
failures of the service itself are told to the log only.
-/

namespace ImageGateway.Http

inductive Error where
  | badRequest (text : String)
  | externalProcess (text : String)
  | internal (text : String)
  deriving DecidableEq, Repr

namespace Error

def message : Error → String
  | badRequest text => s!"bad request {text}"
  | externalProcess text => s!"external process error {text}"
  | internal text => s!"internal server error {text}"

def ofFailure (e : Failure) : Error :=
  if e.isInvalidRequest then badRequest e.message else externalProcess e.message

def response : Error → Response
  | badRequest text => .plain 400 text
  | externalProcess text => .plain 502 text
  | internal _ => .plain 500 "Internal server error"

private def errorTarget : String := "kai_demo::http::error"

def logs : Error → List Log.Event
  | badRequest _ => []
  | externalProcess text => [⟨.error, errorTarget, text, []⟩]
  | internal text => [⟨.error, errorTarget, s!"internal server error: {text}", []⟩]

end Error

end ImageGateway.Http
