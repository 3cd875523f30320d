import ImageGateway.Flag
import ImageGateway.Suffix
import ImageGateway.Failure
import ImageGateway.Text.Blank

/-!
Requests and the command line that a valid one stands for. `Request.prepare` is the whole of the
validation: the input names an image, the configuration path is not blank, and the face library
flag has a directory to go with it.
-/

namespace ImageGateway

structure Request where
  /-- The image to process; the program resolves a relative path from its working directory. -/
  inputImagePath : String
  options : List Flag
  /-- The task configuration file. -/
  mlConfig : String
  /-- The facial imaging library, for `Flag.facialImgDir`. -/
  facialImgDir : Option String
  deriving DecidableEq, Repr

structure Response where
  outputImagePath : String
  deriving DecidableEq, Repr

/-- A validated request: the place of the output and the arguments of the program. -/
structure Prepared where
  outputImagePath : String
  optionTokens : List String
  args : List String
  deriving DecidableEq, Repr

/-- The option tokens with spaces between them, for reading only. -/
def Prepared.optionsDisplay (p : Prepared) : String := " ".intercalate p.optionTokens

/-- What goes between the stem of the input and its suffix to name the output. -/
def outputMark : String := "_KAI"

/-- The output lies beside the input: `photo.png` becomes `photo_KAI.png`. -/
def outputPath (path : String) : Except Failure String :=
  match Suffix.of? path with
  | some s => .ok (s.stem path ++ outputMark ++ s.text)
  | none => .error (.unsupportedFormat path)

/-- The flag that a text spells to the letter. -/
def Flag.parse (text : String) : Except Failure Flag :=
  match Flag.ofToken? text with
  | some f => .ok f
  | none => .error (.unknownOption text)

/-- The arguments that one flag contributes. -/
def Flag.arguments (dir : Option String) : Flag → Except Failure (List String)
  | .mlConfig => .ok [Flag.mlConfig.token]
  | .facialImgDir =>
    match dir with
    | some d =>
      if Text.isBlank d then .error .missingFacialImageDir
      else .ok [Flag.facialImgDir.token, d]
    | none => .error .missingFacialImageDir

/-- The arguments of all flags in order, or the first flag's failure. -/
def optionTokens (flags : List Flag) (dir : Option String) : Except Failure (List String) := do
  let parts ← flags.mapM (Flag.arguments dir)
  return parts.flatten

/-- Everything but the input path: the configuration first, then the flags. -/
def checkArguments (mlConfig : String) (flags : List Flag) (dir : Option String) :
    Except Failure (List String) :=
  if Text.isBlank mlConfig then .error .missingConfigPath else optionTokens flags dir

namespace Request

def prepare (r : Request) : Except Failure Prepared := do
  let output ← outputPath r.inputImagePath
  let tokens ← checkArguments r.mlConfig r.options r.facialImgDir
  return ⟨output, tokens, [r.inputImagePath, r.mlConfig, output] ++ tokens⟩

end Request

end ImageGateway
