import ImageGateway.Files.Access
import ImageGateway.Toml.Decode
import ImageGateway.Toml.Reader
import ImageGateway.Uploads

/-!
The configuration file. It is TOML with a table for the service, one for the image program, which
may be left out wholly or in part, and one for the uploads.
-/

namespace ImageGateway

/-- What the service listens on and how much it takes. -/
structure AppSettings where
  listen : String
  metricsListen : String
  /-- In millions of octets. -/
  maxBodySizeMb : Nat
  workerThreads : Nat
  requestTimeoutSecs : Option Nat := none
  enableOpenApi : Option Bool := none
  deriving DecidableEq, Repr

/-- Where the image program is. -/
structure ProgramSettings where
  workingDir : String := "build"
  executable : String := "KAI-impl"
  deriving DecidableEq, Repr

structure Config where
  app : AppSettings
  program : ProgramSettings := {}
  uploadsPath : String
  deriving DecidableEq, Repr

open Toml

private def textShape : Decoder String := asText "a string"
private def pathShape : Decoder String := asText "path string"
private def sizeShape : Decoder Nat := asNatural "usize"
private def secondsShape : Decoder Nat := asNatural "u64"

namespace AppSettings

def ofEntries (es : Entries) : Except Mismatch AppSettings := do
  checkEntries [("listen", shape textShape), ("metrics_listen", shape textShape),
    ("max_body_size_mb", shape sizeShape), ("worker_threads", shape sizeShape),
    ("request_timeout_secs", shape secondsShape), ("enable_openapi", shape asBoolean)] es
  let listen ← field "listen" textShape es
  let metricsListen ← field "metrics_listen" textShape es
  let maxBodySizeMb ← field "max_body_size_mb" sizeShape es
  let workerThreads ← field "worker_threads" sizeShape es
  let requestTimeoutSecs ← field? "request_timeout_secs" secondsShape es
  let enableOpenApi ← field? "enable_openapi" asBoolean es
  return { listen, metricsListen, maxBodySizeMb, workerThreads, requestTimeoutSecs, enableOpenApi }

/-- As an array every field has to be there. -/
def ofItems (items : List Toml) : Except Mismatch AppSettings := do
  let at' {α : Type} (n : Nat) (f : Decoder α) := item "AppConfig" 6 items n f
  let listen ← at' 0 textShape
  let metricsListen ← at' 1 textShape
  let maxBodySizeMb ← at' 2 sizeShape
  let workerThreads ← at' 3 sizeShape
  let timeout ← at' 4 secondsShape
  let openApi ← at' 5 asBoolean
  return ⟨listen, metricsListen, maxBodySizeMb, workerThreads, some timeout, some openApi⟩

def ofToml : Decoder AppSettings := asStruct "AppConfig" ofEntries ofItems

end AppSettings

namespace ProgramSettings

def ofParts (dir executable : Option String) : ProgramSettings :=
  { workingDir := dir.getD "build", executable := executable.getD "KAI-impl" }

def ofEntries (es : Entries) : Except Mismatch ProgramSettings := do
  checkEntries [("working_dir", shape pathShape), ("executable", shape textShape)] es
  return ofParts (← field? "working_dir" pathShape es) (← field? "executable" textShape es)

def ofItems (items : List Toml) : Except Mismatch ProgramSettings := do
  return ofParts (← item? items 0 pathShape) (← item? items 1 textShape)

def ofToml : Decoder ProgramSettings := asStruct "KaiConfig" ofEntries ofItems

end ProgramSettings

/-- The only setting of the table for uploads. -/
def uploadsPathOfToml : Decoder String :=
  asStruct "UploadConfig" (field "path" pathShape) fun items =>
    item "UploadConfig" 1 items 0 pathShape

namespace Config

def ofEntries (es : Entries) : Except Mismatch Config := do
  checkEntries [("app", shape AppSettings.ofToml), ("kai", shape ProgramSettings.ofToml),
    ("uploads", shape uploadsPathOfToml)] es
  let app ← field "app" AppSettings.ofToml es
  let program ← field? "kai" ProgramSettings.ofToml es
  let uploadsPath ← field "uploads" uploadsPathOfToml es
  return ⟨app, program.getD {}, uploadsPath⟩

/-- Why there is no configuration. -/
inductive Error where
  | unreadable (t : Trouble)
  | notToml
  | mismatch (m : Mismatch)
  deriving DecidableEq, Repr

/-- The configuration that a text holds. -/
def ofText (text : String) : Except Error Config :=
  match Toml.read? text.toList with
  | none => .error .notToml
  | some es => (ofEntries es).mapError .mismatch

def defaultPath : String := "config.toml"

/-- Where the configuration file is: what the environment says, if that is text. -/
def pathFrom (env : Option Bytes) : String := (env.bind Text.Utf8.strict?).getD defaultPath

/-- What is told around an error in the text of the file. -/
def contextAt (path : String) : String := s!"failed to deserialize config: {path}"

/-- The configuration, once the file at a path has been read or not. -/
def ofContent (path : String) : Except SystemFault Bytes → Except Error Config
  | .error e => .error (.unreadable ⟨[s!"failed to read config file: {path}"], e⟩)
  | .ok bytes =>
    match Text.Utf8.strict? bytes with
    | none => .error (.unreadable ⟨[s!"failed to read config file: {path}"], .notUtf8⟩)
    | some text => ofText text

/-- Reads the configuration file at a path. -/
def load (fs : Files) (cwd : Place) (path : String) : Except Error Config :=
  ofContent path ((fs.find cwd path).bind Entry.content?)

/-- The texts of a failed load, outermost first. -/
def Error.chain (path : String) : Error → List String
  | .unreadable t => t.chain
  | .notToml => [contextAt path, "TOML parse error"]
  | .mismatch m => [contextAt path, m.message]

end Config

end ImageGateway
