import ImageGateway.SystemFault

/-!
What can go wrong between a request and its output image, with the texts shown to clients. The
first four are the client's doing; the others come from the image program.
-/

namespace ImageGateway

inductive Failure where
  | unsupportedFormat (name : String)
  | unknownOption (token : String)
  | missingConfigPath
  | missingFacialImageDir
  /-- The program could not be started. -/
  | launch (program : String) (cause : SystemFault)
  /-- The program ended with a code other than zero, or by a signal when there is no code. -/
  | run (code : Option Int) (stderr : String)
  /-- The program ended well, but no regular file is at the place of the output. -/
  | missingOutput (path : String)
  deriving DecidableEq, Repr

namespace Failure

/-- How the end of a program is told. -/
def endText : Option Int → String
  | some code => s!"exit code {code}"
  | none => "terminated by signal"

def message : Failure → String
  | .unsupportedFormat name =>
    s!"unsupported image format: {name} (expected .jpg, .jpeg, .png or .tif)"
  | .unknownOption token => s!"unknown option: {token}"
  | .missingConfigPath => "path to the ML task configuration file is required"
  | .missingFacialImageDir => "-facialImgDir was selected without a facial imaging library path"
  | .launch program cause => s!"failed to launch {program}: {cause.message}"
  | .run code stderr => s!"KAI-impl failed ({endText code}): {stderr}"
  | .missingOutput path => s!"KAI-impl finished but produced no output at {path}"

/-- The request itself is at fault. -/
def isInvalidRequest : Failure → Bool
  | .unsupportedFormat _ | .unknownOption _ | .missingConfigPath | .missingFacialImageDir => true
  | .launch _ _ | .run _ _ | .missingOutput _ => false

/-- The failure underneath, which only a launch has. -/
def cause? : Failure → Option SystemFault
  | .launch _ cause => some cause
  | _ => none

end Failure

end ImageGateway
