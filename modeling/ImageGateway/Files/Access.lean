import ImageGateway.Files.Walk

/-!
Reading, writing and making directories by path name. Paths are taken from a current directory
and links are followed. An operation that changes the tree returns it with its answer, also when
it fails: making a chain of directories may stop halfway.

There are no owners and no limits of space here. Whether something may be read, written or made is
decided by what is on the way and at the place itself, never by permissions, and a write that gets
as far as an opened file writes all of its octets: it fails neither for a full disk nor halfway.
-/

namespace ImageGateway.Files

/-- The entry a path leads to. -/
def find (fs : Files) (cwd : Place) (path : String) : Except SystemFault Entry :=
  match fs.locate cwd path true with
  | .ok ⟨_, some e⟩ => .ok e
  | .ok ⟨_, none⟩ => .error (.os .notFound)
  | .error e => .error e

/-- A regular file is there, possibly behind links. -/
def isFile (fs : Files) (cwd : Place) (path : String) : Bool :=
  match fs.find cwd path with
  | .ok e => e.isRegular
  | .error _ => false

def isDir (fs : Files) (cwd : Place) (path : String) : Bool :=
  match fs.find cwd path with
  | .ok e => e = .dir
  | .error _ => false

end Files

/-- What an opened entry holds. A directory opens, but does not read. -/
def Entry.content? : Entry → Except SystemFault Bytes
  | .file content _ => .ok content
  | .dir => .error (.os .isDirectory)
  | .device .unreadable => .error (.os .ioError)
  | .device _ | .link _ => .ok []

namespace Files

/-- Puts a file with this content where the path leads: an existing file keeps its mode, a free
place gets a new file. It is all of the content or a failure before the first octet. -/
def write (fs : Files) (cwd : Place) (path : String) (data : Bytes) :
    Files × Except SystemFault Unit :=
  match fs.locate cwd path true with
  | .error e => (fs, .error e)
  | .ok ⟨p, none⟩ => (fs.set p (.file data defaultMode), .ok ())
  | .ok ⟨p, some (.file _ mode)⟩ => (fs.set p (.file data mode), .ok ())
  | .ok ⟨_, some .dir⟩ => (fs, .error (.os .isDirectory))
  | .ok ⟨_, some _⟩ => (fs, .ok ())

/-- Slashes at the end do not matter for a directory that is to be made. -/
def withoutEndSlashes (path : String) : String :=
  let cs := path.toList.reverse
  let rest := cs.dropWhile (· = '/')
  if rest = [] then String.ofList (cs.take 1) else String.ofList rest.reverse

def makeDir (fs : Files) (cwd : Place) (path : String) : Files × Except SystemFault Unit :=
  if !Path.hasNul path && Path.maxPath < octetLength path then (fs, .error (.os .nameTooLong))
  else
    match fs.locate cwd (withoutEndSlashes path) false with
    | .error e => (fs, .error e)
    | .ok ⟨p, none⟩ => (fs.set p .dir, .ok ())
    | .ok ⟨_, some _⟩ => (fs, .error (.os .alreadyExists))

/-- Makes a directory and, where the way to it is missing, first the directories above it.
A directory that is there already is as good as a new one. `fuel` bounds how far up to go. -/
def makeDirs (cwd : Place) : Nat → Files → String → Files × Except SystemFault Unit
  | 0, fs, _ => (fs, .error (.os .notFound))
  | fuel + 1, fs, path =>
    if path = "" then (fs, .ok ())
    else
      match fs.makeDir cwd path with
      | (fs, .ok ()) => (fs, .ok ())
      | (fs, .error e) =>
        if e = .os .notFound then
          match Path.parent? path with
          | none => (fs, .error (.other "failed to create whole tree"))
          | some up =>
            match makeDirs cwd fuel fs up with
            | (fs, .error e) => (fs, .error e)
            | (fs, .ok ()) =>
              match fs.makeDir cwd path with
              | (fs, .ok ()) => (fs, .ok ())
              | (fs, .error e) => (fs, if fs.isDir cwd path then .ok () else .error e)
        else (fs, if fs.isDir cwd path then .ok () else .error e)

/-- Makes a directory with all directories on the way to it. -/
def makeDirAll (fs : Files) (cwd : Place) (path : String) : Files × Except SystemFault Unit :=
  makeDirs cwd (path.length + 1) fs path

end ImageGateway.Files
