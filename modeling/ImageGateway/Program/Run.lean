import ImageGateway.Program.Basic
import ImageGateway.Runner
import ImageGateway.Shell.Execution

/-!
Running the image program. It is started in its directory with nothing to read; what it writes is
collected, and it is waited for to its end. Whether it can be started at all is decided first
(`Program.startFault?`).

The image program itself is foreign. What runs here in its place is a shell that knows some tools
of the system (`Shell.Execution`), so a script does what it would do, and any other executable file
is refused as one of a bad format. The rest of the library knows of a program only what `Runner`
says, so what is shown of the service is shown for every program.
-/

namespace ImageGateway.Program

/-- The longest single argument, and the most that all of them may take, in octets. -/
def maxArgument : Nat := 131071
def maxArguments : Nat := 2093056

/-- How many interpreters may stand in front of one another. -/
def maxInterpreters : Nat := 5

/-- Why the file at a path cannot be started; scripts need an interpreter that can be. -/
def fileFault? (fs : Files) (cwd : Place) : Nat → String → Option SystemFault
  | 0, _ => some (.os .tooManyLinks)
  | depth + 1, path =>
    match fs.find cwd path with
    | .error e => some e
    | .ok entry =>
      if !entry.isExecutable then some (.os .accessDenied)
      else
        match entry with
        | .file content _ =>
          match Shell.Execution.shebang? content with
          | some ("", _) | none => some (.os .badFormat)
          | some (interpreter, _) => fileFault? fs cwd depth (Shell.toText interpreter)
        | _ => none

/-- Why the program cannot be started with these arguments, if it cannot. -/
def startFault? (p : Program) (args : List String) (fs : Files) : Option SystemFault :=
  if Path.hasNul p.path || Path.hasNul p.workingDir || args.any Path.hasNul then some .nulInArgument
  else
    match fs.find [] p.workingDir with
    | .error e => some e
    | .ok .dir =>
      let sizes := args.map octetLength
      if sizes.any fun n => maxArgument < n then some (.os .argumentsTooLong)
      else if maxArguments < sizes.foldl (fun sum n => sum + n + 9) 9 then some (.os .argumentsTooLong)
      else
        match fs.locate [] p.workingDir true with
        | .ok ⟨cwd, _⟩ => fileFault? fs cwd maxInterpreters p.path
        | .error e => some e
    | .ok _ => some (.os .notDirectory)

/-- How deep commands may be nested and how often loops go round before a run counts as endless. A
script that needs more is not waited for, so its run has no duration although it might have ended. -/
def patience : Nat := 10000

/-- The session that the program starts in. -/
def session (p : Program) (args : List String) (cwd : Place) (fs : Files) : Shell.Session :=
  { files := fs
    streams := [⟨.source [], 0⟩, ⟨.sink [], 0⟩, ⟨.sink [], 0⟩]
    descriptors := [(0, 0), (1, 1), (2, 2)]
    cwd := cwd
    path := Shell.Builtin.placeText cwd
    name := Shell.ofText p.path
    arguments := args.map Shell.ofText }

/-- The run of a program that can be started. -/
def runFrom (p : Program) (args : List String) (cwd : Place) (entry : Entry) (fs : Files) : Run :=
  let start := p.session args cwd fs
  let (s, flow) := Shell.Execution.launch patience start start.name entry start.arguments
  let code := match flow with
    | .killed _ => none
    | _ => some (s.status : Int)
  { files := s.files
    answer := .ok ⟨code, Text.Utf8.lossy (s.collected 1), Text.Utf8.lossy (s.collected 2)⟩
    duration := if s.hangs then none else some (s.elapsed + 1) }

/-- A run, as far as scripts go. -/
def run (p : Program) (args : List String) (fs : Files) : Run :=
  let failing (e : SystemFault) : Run := ⟨fs, .error (.launch p.path e), some 0⟩
  match p.startFault? args fs with
  | some e => failing e
  | none =>
    match fs.locate [] p.workingDir true with
    | .error e => failing e
    | .ok ⟨cwd, _⟩ =>
      match fs.find cwd p.path with
      | .error e => failing e
      | .ok entry => p.runFrom args cwd entry fs

/-- What is logged before a run. -/
def announce (p : Program) (args : List String) : List Log.Event :=
  let line := " ".intercalate args
  [⟨.debug, "kai_demo::kai::runner", s!"running {p.path} {line}",
    [("program", .text p.path), ("working_dir", .text p.workingDir)]⟩]

def runner (p : Program) : Runner := ⟨p.workingDir, p.announce, p.run⟩

end ImageGateway.Program
