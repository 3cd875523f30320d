import ImageGateway.Files.Access
import ImageGateway.Failure
import ImageGateway.Log
import ImageGateway.Suffix

/-!
Uploaded images on disk. Each one gets a name of its own in one directory; its suffix comes from
its first octets if they tell the format, and from the client's file name otherwise.
-/

namespace ImageGateway

/-- A failure with the steps it happened in, outermost first, and the fault itself. -/
structure Trouble where
  context : List String
  cause : SystemFault
  deriving DecidableEq, Repr

/-- The texts from the outermost step to the fault. -/
def Trouble.chain (t : Trouble) : List String := t.context ++ [t.cause.message]

/-- The outermost text alone. -/
def Trouble.head (t : Trouble) : String := t.chain.headD ""

/-- The same failure seen from one step further out. -/
def Trouble.within (t : Trouble) (step : String) : Trouble := ⟨step :: t.context, t.cause⟩

/-- The suffix that the first octets of an image announce. -/
def Suffix.ofContent? (data : Bytes) : Option Suffix :=
  if [0x89, 0x50, 0x4E, 0x47, 0x0D, 0x0A, 0x1A, 0x0A].isPrefixOf data then some .png
  else if [0xFF, 0xD8, 0xFF].isPrefixOf data then some .jpg
  else if [0x49, 0x49, 0x2A, 0x00].isPrefixOf data || [0x4D, 0x4D, 0x00, 0x2A].isPrefixOf data then
    some .tif
  else none

/-- The suffix of an upload: by its content, else by its name. -/
def Suffix.detect (data : Bytes) (fileName : Option String) : Except Failure Suffix :=
  match Suffix.ofContent? data with
  | some s => .ok s
  | none =>
    let name := fileName.getD ""
    match Suffix.of? name with
    | some s => .ok s
    | none => .error (.unsupportedFormat name)

/-- The media type of a file by the extension of its name. -/
def mediaTypeOf (path : String) : String :=
  match Path.extension? path with
  | some "jpg" | some "jpeg" => "image/jpeg"
  | some "png" => "image/png"
  | some "tif" => "image/tiff"
  | _ => "application/octet-stream"

/-- The directory that uploads go to, in absolute form. -/
structure UploadStore where
  path : String
  deriving DecidableEq, Repr

namespace UploadStore

/-- `cwdPath` is the path of the current directory. -/
def create (cwdPath path : String) : Except Trouble UploadStore :=
  match Path.absolute? cwdPath path with
  | some p => .ok ⟨p⟩
  | none => .error ⟨[s!"failed to resolve path: {path}"], .emptyPath⟩

/-- Where an upload with this identifier and suffix goes. -/
def place (s : UploadStore) (id suffix : String) : String := Path.join s.path (id ++ suffix)

/-- The directory for uploads, made if it is missing. -/
def makeReady (s : UploadStore) (cwd : Place) (fs : Files) : Files × Except Trouble Unit :=
  match fs.makeDirAll cwd s.path with
  | (fs, .ok ()) => (fs, .ok ())
  | (fs, .error e) => (fs, .error ⟨[s!"failed to create directory: {s.path}"], e⟩)

/-- Writes an upload to its place, if there is a directory for it, and says where that is. A write
that is let begin is also finished: no disk is full and no permission is missing (`Files.write`). -/
def write (s : UploadStore) (cwd : Place) (fs : Files) (id suffix : String) (data : Bytes) :
    Files × Except Trouble String :=
  let path := s.place id suffix
  match fs.write cwd path data with
  | (fs, .error e) => (fs, .error ⟨[s!"failed to write file: {path}"], e⟩)
  | (fs, .ok ()) => (fs, .ok path)

/-- Stores an upload under the given identifier and says where it is. -/
def store (s : UploadStore) (cwd : Place) (fs : Files) (id suffix : String) (data : Bytes) :
    Files × Except Trouble String × List Log.Event :=
  match s.makeReady cwd fs with
  | (fs, .error t) => (fs, .error t, [])
  | (fs, .ok ()) =>
    match s.write cwd fs id suffix data with
    | (fs, .error t) => (fs, .error t, [])
    | (fs, .ok path) =>
      (fs, .ok path, [⟨.debug, "kai_demo::http::uploads", "stored upload",
        [("path", .text path), ("size", .number data.length)]⟩])

/-- The content of any file by its path. -/
def read (cwd : Place) (fs : Files) (path : String) : Except Trouble Bytes :=
  match fs.find cwd path with
  | .error e => .error ⟨[s!"failed to open file: {path}"], e⟩
  | .ok entry =>
    match entry.content? with
    | .ok data => .ok data
    | .error e => .error ⟨[s!"failed to read file: {path}"], e⟩

end UploadStore

end ImageGateway
