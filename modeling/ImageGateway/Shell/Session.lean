import ImageGateway.Files.Access
import ImageGateway.Shell.Command
import ImageGateway.Shell.Octets

/-!
The state of a running script: its files, where it is, its variables, and what its descriptors are
connected to. Descriptors that were duplicated share a stream and thus a position.
-/

namespace ImageGateway.Shell

/-- What a stream reads from or writes to. -/
inductive Target where
  /-- Collects what is written, the last piece first. -/
  | sink (pieces : List Bytes)
  /-- Gives what is left to read. -/
  | source (rest : Bytes)
  | file (place : Place) (append : Bool)
  | folder
  | null
  | zero
  | unreadable
  deriving DecidableEq, Repr

structure Stream where
  target : Target
  position : Nat := 0
  deriving DecidableEq, Repr

structure Session where
  files : Files
  /-- Streams by their number. -/
  streams : List Stream
  /-- Descriptors with the numbers of their streams. -/
  descriptors : List (Nat × Nat)
  cwd : Place
  /-- The current directory as the script walked to it. -/
  path : String
  /-- The variables and what they hold. -/
  bindings : List (String × String) := []
  /-- The names of the variables that programs are given too. -/
  exported : List String := []
  /-- The names of the variables that keep their value. -/
  constant : List String := []
  /-- In a function, what the variables held that it has made its own. -/
  outerValues : Option (List (String × Option String)) := none
  arguments : List String := []
  /-- What the script was called. -/
  name : String
  functions : List (String × Command) := []
  /-- What to do at a signal, by its name. -/
  traps : List (String × String) := []
  status : Nat := 0
  /-- Milliseconds spent so far. -/
  elapsed : Nat := 0
  line : Nat := 1
  /-- The command whose text is being carried out, as mistakes in that text name it. -/
  within : Option String := none
  /-- Ends when a command fails that nobody looks at. -/
  endsOnFailure : Bool := false
  /-- How many loops are around the command. -/
  loops : Nat := 0
  /-- Takes a parameter that is not set for a mistake. -/
  needsSet : Bool := false
  /-- Why an expansion could not be carried out. -/
  fault : Option String := none
  /-- A command does not come to its end. -/
  hangs : Bool := false

namespace Session

/-! ## Variables -/

def get? (s : Session) (x : String) : Option String := s.bindings.lookup x

def set (s : Session) (x v : String) : Session :=
  { s with bindings := (x, v) :: s.bindings.filter (·.1 ≠ x) }

/-- The variables that programs are given. -/
def environment (s : Session) : List (String × String) :=
  s.bindings.filter fun v => s.exported.contains v.1

def unset (s : Session) (x : String) : Session :=
  { s with bindings := s.bindings.filter (·.1 ≠ x) }

/-- Gives back to the variables that a function has made its own what they held before. -/
def giveBack (s : Session) : Session :=
  (s.outerValues.getD []).foldl (fun s (x, v) =>
    match v with
    | some v => s.set x v
    | none => s.unset x) s

def withStatus (s : Session) (n : Nat) : Session := { s with status := n }

/-- The characters that separate fields. -/
def separators (s : Session) : List Char := ((s.get? "IFS").getD " \t\n").toList

/-! ## Streams -/

def stream? (s : Session) (fd : Nat) : Option (Nat × Stream) := do
  let n ← s.descriptors.lookup fd
  return (n, ← s.streams[n]?)

def setStream (s : Session) (n : Nat) (t : Stream) : Session :=
  { s with streams := s.streams.set n t }

/-- Adds a stream and gives its number. -/
def addStream (s : Session) (t : Target) : Session × Nat :=
  ({ s with streams := s.streams ++ [⟨t, 0⟩] }, s.streams.length)

def connect (s : Session) (fd stream : Nat) : Session :=
  { s with descriptors := (fd, stream) :: s.descriptors.filter (·.1 ≠ fd) }

def close (s : Session) (fd : Nat) : Session :=
  { s with descriptors := s.descriptors.filter (·.1 ≠ fd) }

/-- Content with a piece put over it from a position on; a gap is filled with zeros. -/
def overlay (content : Bytes) (position : Nat) (piece : Bytes) : Bytes :=
  content.take position ++ List.replicate (position - content.length) 0 ++ piece ++
    content.drop (position + piece.length)

/-- Writes to a descriptor, which fails if it is closed. -/
def write (s : Session) (fd : Nat) (piece : Bytes) : Session × Bool :=
  match s.stream? fd with
  | none => (s, piece.isEmpty)
  | some (n, t) =>
    match t.target with
    | .sink pieces => (s.setStream n { t with target := .sink (piece :: pieces) }, true)
    | .file place append =>
      match s.files.get? place with
      | some (.file content mode) =>
        let start := if append then content.length else t.position
        ({ s with files := s.files.set place (.file (overlay content start piece) mode) }.setStream n
          { t with position := start + piece.length }, true)
      | _ => (s, true)
    | .null | .zero => (s, true)
    | .source _ | .folder | .unreadable => (s, false)

/-- Writes shell text. -/
def print (s : Session) (fd : Nat) (text : String) : Session := (s.write fd (octets text)).1

/-- What is left to read at a descriptor; none if it is closed or cannot be read. An endless
stream gives nothing here. -/
def pending (s : Session) (fd : Nat) : Except Errno Bytes :=
  match s.stream? fd with
  | none => .error ⟨9⟩
  | some (_, t) =>
    match t.target with
    | .source rest => .ok rest
    | .file place _ =>
      match s.files.get? place with
      | some (.file content _) => .ok (content.drop t.position)
      | _ => .ok []
    | .null | .zero => .ok []
    | .sink _ => .error ⟨9⟩
    | .folder => .error .isDirectory
    | .unreadable => .error .ioError

def isEndless (s : Session) (fd : Nat) : Bool :=
  match s.stream? fd with
  | some (_, ⟨.zero, _⟩) => true
  | _ => false

/-- Moves on behind the next `n` octets. -/
def advance (s : Session) (fd n : Nat) : Session :=
  match s.stream? fd with
  | some (k, ⟨.source rest, p⟩) => s.setStream k ⟨.source (rest.drop n), p + n⟩
  | some (k, ⟨.file place a, p⟩) => s.setStream k ⟨.file place a, p + n⟩
  | _ => s

/-- Everything that was written to a sink. -/
def collected (s : Session) (stream : Nat) : Bytes :=
  match s.streams[stream]? with
  | some ⟨.sink pieces, _⟩ => pieces.reverse.flatten
  | _ => []

/-! ## Files -/

def find (s : Session) (path : String) : Except SystemFault Entry :=
  s.files.find s.cwd (toText path)

/-- The stream target behind an entry. -/
def targetOf (place : Place) (append : Bool) : Entry → Target
  | .dir => .folder
  | .device .null => .null
  | .device .zero => .zero
  | .device .unreadable => .unreadable
  | .device (.tool _) => .source []
  | .file _ _ => .file place append
  | .link _ => .null

/-- Opens a file for reading. -/
def openRead (s : Session) (path : String) : Except SystemFault Target :=
  match s.files.locate s.cwd (toText path) true with
  | .ok ⟨p, some e⟩ => .ok (targetOf p false e)
  | .ok ⟨_, none⟩ => .error (.os .notFound)
  | .error e => .error e

/-- Opens a file for writing and makes it if it is missing; without `append` and `keep` it is
emptied. -/
def openWrite (s : Session) (path : String) (append keep : Bool) :
    Session × Except SystemFault Target :=
  match s.files.locate s.cwd (toText path) true with
  | .error e => (s, .error e)
  | .ok ⟨p, none⟩ =>
    ({ s with files := s.files.set p (.file [] defaultMode) }, .ok (.file p append))
  | .ok ⟨p, some (.file content mode)⟩ =>
    let content := if append || keep then content else []
    ({ s with files := s.files.set p (.file content mode) }, .ok (.file p append))
  | .ok ⟨_, some .dir⟩ => (s, .error (.os .isDirectory))
  | .ok ⟨p, some e⟩ => (s, .ok (targetOf p append e))

/-- The text of a system error without its number. -/
def reason : SystemFault → String
  | .os e => e.text
  | f => f.message

/-- Tells a mistake in the way of the shell: script, line and what went wrong. -/
def complain (s : Session) (text : String) : Session :=
  s.print 2 s!"{s.name}: {s.line}: {text}\n"

/-- The same for a mistake that no command of its own is named for. -/
def protest (s : Session) (text : String) : Session :=
  s.complain (match s.within with
    | some command => s!"{command}: {text}"
    | none => text)

end Session

end ImageGateway.Shell
