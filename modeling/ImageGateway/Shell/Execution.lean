import ImageGateway.Shell.Builtin

/-!
Carrying out commands. Every function here has a fuel that bounds how deep commands are nested and
how often a loop goes round. Wherever it is used up the session is marked as one that hangs, so
such a script counts as one that never ends, also if it would have ended later.
-/

namespace ImageGateway.Shell

/-- How a command leaves what is around it. -/
inductive Flow where
  | next
  | exit
  | return
  | break (levels : Nat)
  | continue (levels : Nat)
  | killed (signal : Nat)
  /-- It does not end. -/
  | stuck
  deriving DecidableEq, Repr

namespace Execution

abbrev Result := Session × Flow

/-- Gives back what a subshell may not change. -/
def restore (outer inner : Session) : Session :=
  { inner with
    descriptors := outer.descriptors, cwd := outer.cwd, path := outer.path
    bindings := outer.bindings, exported := outer.exported, constant := outer.constant
    outerValues := outer.outerValues, loops := outer.loops
    arguments := outer.arguments, name := outer.name
    functions := outer.functions, traps := outer.traps, line := outer.line, within := outer.within
    endsOnFailure := outer.endsOnFailure, needsSet := outer.needsSet, fault := outer.fault }

/-- How a subshell ends for the shell around it. -/
def Flow.outside : Flow → Flow
  | .killed n => .killed n
  | .stuck => .stuck
  | _ => .next

/-- Without the line ends at the end, and without octets that no variable holds. -/
def trimOutput (text : String) : String :=
  String.ofList ((text.toList.filter (· ≠ '\x00')).reverse.dropWhile (· = '\n')).reverse

/-- Why a file cannot be opened, in the words of the shell. -/
def openReason (creating : Bool) : SystemFault → String
  | .os e =>
    if e = .notFound || e = .notDirectory then
      if creating then "Directory nonexistent" else "No such file"
    else e.text
  | f => f.message

/-- The interpreter and its argument in the first line of a script. -/
def shebang? (content : Bytes) : Option (String × List String) :=
  match content with
  | 35 :: 33 :: rest =>
    let line := ofOctets (rest.takeWhile (· ≠ 10))
    let line := line.trimAscii.toString
    let words := (line.toList.takeWhile fun c => c ≠ ' ' && c ≠ '\t')
    let argument := ((line.toList.drop words.length).dropWhile fun c => c = ' ' || c = '\t')
    some (String.ofList words, if argument.isEmpty then [] else [String.ofList argument])
  | _ => none

/-- The descriptor that a file name of the system stands for. -/
def standard? (path : String) : Option Nat :=
  match path with
  | "/dev/stdin" | "/dev/fd/0" | "/proc/self/fd/0" => some 0
  | "/dev/stdout" | "/dev/fd/1" | "/proc/self/fd/1" => some 1
  | "/dev/stderr" | "/dev/fd/2" | "/proc/self/fd/2" => some 2
  | _ => none

/-- Names under which a shell is called. -/
def isShellName (name : String) : Bool := name ∈ ["sh", "dash", "bash", "ash"]

/-- Options of a shell before its script. -/
def shellOptions : List String → List String × List String
  | a :: rest =>
    match a.toList with
    | c :: _ :: _ =>
      if (c = '-' || c = '+') && !(a.toList.contains 'c') then
        let (os, ops) := shellOptions rest
        (a :: os, ops)
      else ([], a :: rest)
    | _ => ([], a :: rest)
  | [] => ([], [])

/-- A session for a script of its own, on the same descriptors. -/
def fresh (s : Session) (name : String) (arguments : List String) : Session :=
  { files := s.files, streams := s.streams, descriptors := s.descriptors, cwd := s.cwd
    path := s.path, name := name, arguments := arguments, elapsed := s.elapsed
    bindings := s.environment, exported := s.exported }

/-- What a name of a command stands for. -/
def describe (s : Session) (name : String) : Option String :=
  if Command.reserved.contains name then some "a shell keyword"
  else if (s.functions.lookup name).isSome then some "a shell function"
  else if Builtin.special.contains name then some "a special shell builtin"
  else if (Builtin.all.lookup name).isSome || name ∈ ["command", "kill", "type"] then
    some "a shell builtin"
  else if (Tool.all.lookup name).isSome || isShellName name || name ∈ ["env", "timeout", "nice", "nohup"] then
    some ("/usr/bin/" ++ name)
  else none

mutual

/-- Carries out a command; with `tested` its failure is looked at by what is around it. -/
def exec : Nat → Bool → Session → Command → Result
  | 0, _, s, _ => ({ s with hangs := true }, .stuck)
  | fuel + 1, tested, s, c =>
    match c with
    | .pass => (s, .next)
    | .simple line assignments words redirects =>
      simple fuel tested { s with line := line } assignments words redirects
    | .sequence a b =>
      match exec fuel tested s a with
      | (s, .next) => exec fuel tested s b
      | r => r
    | .both a b =>
      match exec fuel true s a with
      | (s, .next) => if s.status = 0 then exec fuel tested s b else (s, .next)
      | r => r
    | .either a b =>
      match exec fuel true s a with
      | (s, .next) => if s.status = 0 then (s, .next) else exec fuel tested s b
      | r => r
    | .negated a =>
      match exec fuel true s a with
      | (s, .next) => (s.withStatus (if s.status = 0 then 1 else 0), .next)
      | r => r
    | .pipe a b =>
      let (s1, n) := s.addStream (.sink [])
      match exec fuel true (s1.connect 1 n) a with
      | (s2, flow) =>
        match Flow.outside flow with
        | .next =>
          let (s3, m) := (restore s s2).addStream (.source (s2.collected n))
          let (s4, flow) := exec fuel tested (s3.connect 0 m) b
          (restore s s4, Flow.outside flow)
        | flow => (restore s s2, flow)
    | .background a =>
      let (s', flow) := exec fuel true s a
      ((restore s s').withStatus 0, Flow.outside flow)
    | .subshell a =>
      let (s', flow) := exec fuel tested s a
      (restore s s', Flow.outside flow)
    | .redirected a rs =>
      match redirect fuel s rs with
      | (s', true) =>
        let (s'', flow) := exec fuel tested s' a
        ({ s'' with descriptors := s.descriptors }, flow)
      | (s', false) => ({ s' with descriptors := s.descriptors }.withStatus 2, .next)
    | .branch test yes no =>
      match exec fuel true s test with
      | (s, .next) =>
        if s.status = 0 then exec fuel tested s yes else exec fuel tested (s.withStatus 0) no
      | r => r
    | .loop goOn test body =>
      let (s', flow) := rounds fuel tested { s with loops := s.loops + 1 } 0 goOn test body
      ({ s' with loops := s.loops }, flow)
    | .each name words body =>
      match words with
      | none =>
        let (s', flow) := eachOf fuel tested { s with loops := s.loops + 1 } name s.arguments body
        ({ s' with loops := s.loops }, flow)
      | some ws =>
        let (s, values) := fieldsOf fuel s ws
        match s.fault with
        | some m => (({ s with fault := none }.protest m).withStatus 2, .exit)
        | none =>
          let inner := { s.withStatus 0 with loops := s.loops + 1 }
          let (s', flow) := eachOf fuel tested inner name values body
          ({ s' with loops := s.loops }, flow)
    | .choose subject patterns body otherwise =>
      let (s, text) := textOf fuel s subject
      let (s, fits) := anyFits fuel s text patterns
      exec fuel tested (s.withStatus 0) (if fits then body else otherwise)
    | .define name body =>
      ({ s with functions := (name, body) :: s.functions.filter (·.1 ≠ name) }.withStatus 0, .next)

/-- The rounds of a loop; `last` is the status of the last round. -/
def rounds : Nat → Bool → Session → Nat → Bool → Command → Command → Result
  | 0, _, s, _, _, _, _ => ({ s with hangs := true }, .stuck)
  | fuel + 1, tested, s, last, goOn, test, body =>
    match exec fuel true s test with
    | (s, .next) =>
      if (s.status = 0) = goOn then
        match exec fuel tested s body with
        | (s, .next) => rounds fuel tested s s.status goOn test body
        | (s, .continue 0) | (s, .continue 1) => rounds fuel tested s s.status goOn test body
        | (s, .continue (n + 2)) => (s, .continue (n + 1))
        | (s, .break 0) | (s, .break 1) => (s.withStatus 0, .next)
        | (s, .break (n + 2)) => (s, .break (n + 1))
        | r => r
      else (s.withStatus last, .next)
    | (s, .break n) => if n ≤ 1 then (s.withStatus 0, .next) else (s, .break (n - 1))
    | r => r

/-- One round for each value. -/
def eachOf : Nat → Bool → Session → String → List String → Command → Result
  | 0, _, s, _, _, _ => ({ s with hangs := true }, .stuck)
  | _ + 1, _, s, _, [], _ => (s, .next)
  | fuel + 1, tested, s, name, v :: vs, body =>
    match exec fuel tested (s.set name v) body with
    | (s, .next) | (s, .continue 0) | (s, .continue 1) => eachOf fuel tested s name vs body
    | (s, .continue (n + 2)) => (s, .continue (n + 1))
    | (s, .break 0) | (s, .break 1) => (s.withStatus 0, .next)
    | (s, .break (n + 2)) => (s, .break (n + 1))
    | r => r

/-- What a script writes when it is run on its own. -/
def capture : Nat → Session → List Char → Session × String
  | 0, s, _ => ({ s with hangs := true }, "")
  | fuel + 1, s, text =>
    let (s1, n) := s.addStream (.sink [])
    let (s2, _) := lines fuel (s1.connect 1 n) (Token.ofScript s.line text)
    (restore s s2, trimOutput (ofOctets (s2.collected n)))

/-- The fields of words. -/
def fieldsOf : Nat → Session → List Word → Session × List String
  | 0, s, _ => ({ s with hangs := true }, [])
  | _ + 1, s, [] => (s, [])
  | fuel + 1, s, w :: ws =>
    let (s, items) :=
      Expansion.expand (fun s t => capture fuel s t) (w.length + fuel + 2) s (Expansion.withHome s w)
    let fields := (Expansion.split s.separators items).flatMap (Expansion.glob s)
    let (s, rest) := fieldsOf fuel s ws
    (s, fields ++ rest)

/-- A word as one text. -/
def textOf : Nat → Session → Word → Session × String
  | 0, s, _ => ({ s with hangs := true }, "")
  | fuel + 1, s, w =>
    let (s, items) :=
      Expansion.expand (fun s t => capture fuel s t) (w.length + fuel + 2) s (Expansion.withHome s w)
    (s, Expansion.plainText items)

/-- One of the patterns fits the text. -/
def anyFits : Nat → Session → String → List Word → Session × Bool
  | 0, s, _, _ => ({ s with hangs := true }, false)
  | _ + 1, s, _, [] => (s, false)
  | fuel + 1, s, text, w :: ws =>
    let (s, items) := Expansion.expand (fun s t => capture fuel s t) (w.length + fuel + 2) s w
    if Glob.fits (Glob.ofMarked (Expansion.markedText items)) text.toList then (s, true)
    else anyFits fuel s text ws

/-- Connects descriptors one after another; false when one could not be. -/
def redirect : Nat → Session → List Redirect → Session × Bool
  | 0, s, _ => ({ s with hangs := true }, false)
  | _ + 1, s, [] => (s, true)
  | fuel + 1, s, r :: rs =>
    let (s, text) := textOf fuel s r.target
    let attach (s : Session) (t : Target) : Session × Bool :=
      let (s, n) := s.addStream t
      redirect fuel (s.connect r.descriptor n) rs
    match r.kind with
    | .here => attach s (.source (octets text))
    | .read =>
      match (standard? text).bind fun n => s.descriptors.lookup n with
      | some n => redirect fuel (s.connect r.descriptor n) rs
      | none =>
      match s.openRead text with
      | .ok t => attach s t
      | .error e => (s.protest s!"cannot open {text}: {openReason false e}", false)
    | .write | .append | .readWrite =>
      match (standard? text).bind fun n => s.descriptors.lookup n with
      | some n => redirect fuel (s.connect r.descriptor n) rs
      | none =>
      match s.openWrite text (r.kind = .append) (r.kind = .readWrite) with
      | (s, .ok t) => attach s t
      | (s, .error e) => (s.protest s!"cannot create {text}: {openReason true e}", false)
    | .duplicate =>
      if text = "-" then redirect fuel (s.close r.descriptor) rs
      else
        match text.toNat?.bind fun n => s.descriptors.lookup n with
        | some n => redirect fuel (s.connect r.descriptor n) rs
        | none => (s.protest s!"{text}: Bad file descriptor", false)

/-- A simple command: its words are expanded, its descriptors connected, its variables set, and
then it is looked up. -/
def simple : Nat → Bool → Session → List (String × Word) → List Word → List Redirect → Result
  | 0, _, s, _, _, _ => ({ s with hangs := true }, .stuck)
  | fuel + 1, tested, s, assignments, words, redirects =>
    let before := s.status
    let (s, fields) := fieldsOf fuel s words
    match s.fault with
    | some m => (({ s with fault := none }.protest m).withStatus 2, .exit)
    | none =>
      let outer := s.descriptors
      let (s, connected) := redirect fuel s redirects
      if !connected then
        let ends := (fields.head?.any Builtin.special.contains)
        ({ s with descriptors := outer }.withStatus 2, if ends then .exit else .next)
      else
        let captures := assignments.any fun a => a.2.any fun p => match p with
          | .output _ _ _ => true
          | _ => false
        let saved := s.bindings
        let (s, values) := valuesOf fuel { s with status := before } assignments
        match s.fault with
        | some m => (({ s with fault := none }.protest m).withStatus 2, .exit)
        | none =>
          match values.find? fun v => s.constant.contains v.1 with
          | some v => ((s.protest s!"{v.1}: is read only").withStatus 2, .exit)
          | none =>
          let s := values.foldl (fun s v => s.set v.1 v.2) s
          let exported := s.exported
          let s := if fields.isEmpty then s
            else { s with exported := values.map (·.1) ++ s.exported }
          let (s, flow) : Result :=
            match fields with
            | [] => ({ s with descriptors := outer }.withStatus (if captures then s.status else 0), .next)
            | name :: args =>
              let keepsDescriptors := name = "exec" && args.isEmpty
              let (s, flow) := call fuel tested s name args
              let s := if keepsDescriptors then s else { s with descriptors := outer }
              if assignments.isEmpty then (s, flow)
              else ({ s with bindings := saved, exported := exported }, flow)
          if s.hangs then (s, .stuck)
          else if flow = .next && s.status ≠ 0 && s.endsOnFailure && !tested then (s, .exit)
          else (s, flow)

def valuesOf : Nat → Session → List (String × Word) → Session × List (String × String)
  | 0, s, _ => ({ s with hangs := true }, [])
  | _ + 1, s, [] => (s, [])
  | fuel + 1, s, (x, w) :: rest =>
    let (s, v) := textOf fuel s w
    let (s, vs) := valuesOf fuel (s.set x v) rest
    (s, (x, v) :: vs)

/-- Finds a command by its name and carries it out. -/
def call : Nat → Bool → Session → String → List String → Result
  | 0, _, s, _, _ => ({ s with hangs := true }, .stuck)
  | fuel + 1, tested, s, name, args =>
    let counted (default : Nat) (leave : Nat → Result) : Result :=
      match args with
      | [] => leave default
      | a :: _ =>
        match a.toNat? with
        | some n => leave n
        | none => ((s.complain s!"{name}: Illegal number: {a}").withStatus 2, .exit)
    let inLoop (flow : Nat → Flow) : Result :=
      counted 1 fun n => (s.withStatus 0, if s.loops = 0 then .next else flow n)
    match name with
    | "exit" => counted s.status fun n => (s.withStatus (n % 256), .exit)
    | "return" => counted s.status fun n => (s.withStatus (n % 256), .return)
    | "break" => inLoop .break
    | "continue" => inLoop .continue
    | "shift" => counted 1 fun n =>
      match Builtin.shift s [toString n] with
      | (s, 0) => (s.withStatus 0, .next)
      | (s, status) => (s.withStatus status, .exit)
    | "eval" =>
      let text := (" ".intercalate args).toList
      let (s', flow) := lines fuel { s with status := 0, within := some "eval", line := 1 } (Token.ofScript 1 text)
      ({ s' with within := s.within, line := s.line }, flow)
    | "exec" =>
      match args with
      | [] => (s.withStatus 0, .next)
      | n :: rest =>
        match external fuel { s with within := some "exec" } n rest with
        | (s, .next) => (s, .exit)
        | r => r
    | "." =>
      match args with
      | path :: _ =>
        match (s.find path).bind Entry.content? with
        | .ok content =>
          let text := (ofOctets content).toList
          let (s', flow) := lines fuel { s with within := some path, line := 1 } (Token.ofScript 1 text)
          ({ s' with within := s.within, line := s.line }, if flow = .return then .next else flow)
        | .error _ =>
          let text := if path.toList.contains '/' then s!"cannot open {path}: No such file"
            else s!"{path}: not found"
          ((s.complain s!".: {text}").withStatus 2, .exit)
      | [] => (s.withStatus 0, .next)
    | "command" =>
      match args with
      | "-v" :: n :: _ =>
        if (Builtin.all.lookup n).isSome || (s.functions.lookup n).isSome || Builtin.special.contains n then
          ((s.print 1 (n ++ "\n")).withStatus 0, .next)
        else if (Tool.all.lookup n).isSome || isShellName n then
          ((s.print 1 ("/usr/bin/" ++ n ++ "\n")).withStatus 0, .next)
        else (s.withStatus 127, .next)
      | "--" :: rest => call fuel tested s "command" rest
      | n :: rest =>
        match n.toList with
        | '-' :: c :: _ =>
          if c = 'p' || c = 'V' then call fuel tested s "command" rest
          else ((s.complain ("command: Illegal option -" ++ String.ofList [c])).withStatus 2, .exit)
        | _ => call fuel tested s n rest
      | [] => (s.withStatus 0, .next)
    | "kill" => kill fuel s args
    | "type" =>
      let (s, status) := Tool.plural args (fun n s =>
        match describe s n with
        | some text => (s.print 1 s!"{n} is {text}\n", 0)
        | none => (s.print 1 s!"{n}: not found\n", 127)) s
      (s.withStatus status, .next)
    | _ =>
      match s.functions.lookup name with
      | some body =>
        let (s', flow) := exec fuel tested { s with arguments := args, outerValues := some [] } body
        let s' := { s'.giveBack with arguments := s.arguments, outerValues := s.outerValues }
        (s', if flow = .return then .next else flow)
      | none =>
        match Builtin.all.lookup name with
        | some f =>
          let (s, n) := f s args
          (s.withStatus n, if n = 2 && Builtin.special.contains name then .exit else .next)
        | none => external fuel s name args

/-- Sends a signal, to the script itself if it is the one named. -/
def kill : Nat → Session → List String → Result
  | 0, s, _ => ({ s with hangs := true }, .stuck)
  | fuel + 1, s, args =>
    let (signal, targets) : Option Nat × List String :=
      match args with
      | "-s" :: n :: rest => (Signal.ofText? n, rest)
      | a :: rest =>
        match a.toList with
        | '-' :: n@(_ :: _) => (Signal.ofText? (String.ofList n), rest)
        | _ => (some 15, args)
      | [] => (some 15, [])
    let targets := targets.filter (· ≠ "--")
    let own (t : String) : Bool := some t = Expansion.value? s "$" || t = "0"
    match signal, targets with
    | none, _ =>
      let text := match args with
        | "-s" :: n :: _ => "invalid signal number or name: " ++ n
        | a :: _ => "Illegal option " ++ String.ofList (a.toList.take 2)
        | [] => ""
      ((s.complain ("kill: " ++ text)).withStatus 2, .next)
    | _, [] => ((s.complain Signal.usage).withStatus 2, .next)
    | some n, _ =>
      if targets.any own then
        let trapped := if n = 9 || n = 19 then none else s.traps.lookup (Signal.nameOf n)
        match trapped with
        | some "" => (s.withStatus 0, .next)
        | some action => lines fuel (s.withStatus 0) (Token.ofScript 1 action.toList)
        | none =>
          match Signal.effect n with
          | .none => (s.withStatus 0, .next)
          | .stop => ({ s with hangs := true }, .stuck)
          | .kill => (s, .killed n)
      else ((s.complain "kill: No such process\n").withStatus 1, .next)

/-- A command from a file, or a tool of the system. -/
def external : Nat → Session → String → List String → Result
  | 0, s, _, _ => ({ s with hangs := true }, .stuck)
  | fuel + 1, s, name, args =>
    let finish (r : Session × Nat) : Result := (r.1.withStatus r.2, .next)
    if name.toList.contains '/' then
      match s.find name with
      | .error _ => ((s.protest s!"{name}: not found").withStatus 127, .next)
      | .ok entry =>
        if !entry.isExecutable then ((s.protest s!"{name}: Permission denied").withStatus 126, .next)
        else
          let (s', flow) := launch fuel (fresh s name args) name entry args
          (restore s s', Flow.outside flow)
    else if isShellName name then
      let (s', flow) := shell fuel (fresh s name []) args
      (restore s s', Flow.outside flow)
    else if name = "env" then
      match args.dropWhile fun a => a.toList.contains '=' || a = "-i" with
      | [] => (s.withStatus 0, .next)
      | n :: rest =>
        let given := (args.takeWhile fun a => a.toList.contains '=').filterMap fun a =>
          match a.splitOn "=" with
          | x :: v => some (x, "=".intercalate v)
          | [] => none
        let (s', flow) := external fuel (given.foldl (fun s v => s.set v.1 v.2) s) n rest
        ({ s' with bindings := s.bindings }, flow)
    else if name = "timeout" || name = "nice" || name = "nohup" then
      let rest := if name = "timeout" then args.drop 1 else args
      match rest with
      | n :: rest => external fuel s n rest
      | [] => (s.withStatus 125, .next)
    else if name = "test" || name = "[" || name = "echo" || name = "printf" || name = "pwd" then
      match Builtin.all.lookup name with
      | some f => finish (f s args)
      | none => (s, .next)
    else if name = "" then ((s.protest ": Permission denied").withStatus 127, .next)
    else
      match Tool.all.lookup name with
      | some f => finish (f s args)
      | none => ((s.protest s!"{name}: not found").withStatus 127, .next)

/-- Runs the program in a file, in a session of its own. A script goes to the interpreter that its
first line names. -/
def launch : Nat → Session → String → Entry → List String → Result
  | 0, s, _, _, _ => ({ s with hangs := true }, .stuck)
  | fuel + 1, s, path, entry, args =>
    match entry with
    | .device (.tool name) => tool fuel s name args
    | .file content _ =>
      match shebang? content with
      | some (interpreter, extra) =>
        match s.find interpreter with
        | .ok e => launch fuel s interpreter e (extra ++ path :: args)
        | .error _ => (s.withStatus 127, .exit)
      | none => script fuel { s with name := path, arguments := args } content
    | _ => (s.withStatus 126, .exit)

/-- Runs a tool by its name as a program of its own. -/
def tool : Nat → Session → String → List String → Result
  | 0, s, _, _ => ({ s with hangs := true }, .stuck)
  | fuel + 1, s, name, args =>
    if isShellName name then shell fuel s args
    else
      match external fuel s name args with
      | (s, .next) => (s, .exit)
      | r => r

/-- Runs a shell with its own arguments: a script in a file, or one given with `-c`. -/
def shell : Nat → Session → List String → Result
  | 0, s, _ => ({ s with hangs := true }, .stuck)
  | fuel + 1, s, args =>
    let (os, rest) := shellOptions args
    let s := (Builtin.set s os).1
    match rest with
    | [] =>
      match s.pending 0 with
      | .ok content => script fuel s content
      | .error _ => (s.withStatus 0, .exit)
    | a :: rest =>
      if a = "-c" || a = "-ec" || a = "-ce" || a = "-uc" then
        let s := if a.toList.contains 'e' then { s with endsOnFailure := true } else s
        match rest with
        | [] => ((s.complain "-c requires an argument").withStatus 2, .exit)
        | text :: rest =>
          script fuel { s with name := rest.headD s.name, arguments := rest.tail } (octets text)
      else
        match s.find a with
        | .ok entry =>
          match entry.content? with
          | .ok content => script fuel { s with name := a, arguments := rest } content
          | .error e => ((s.complain s!"cannot open {a}: {Session.reason e}").withStatus 2, .exit)
        | .error e =>
          (({ s with line := 0 }.complain s!"cannot open {a}: {openReason false e}").withStatus 127, .exit)

/-- Runs a whole script and, when it comes to its end, what it has set for that. -/
def script : Nat → Session → Bytes → Result
  | 0, s, _ => ({ s with hangs := true }, .stuck)
  | fuel + 1, s, content =>
    match lines fuel s (Token.ofScript 1 (ofOctets content).toList) with
    | (s, .killed n) => (s, .killed n)
    | (s, .stuck) => (s, .stuck)
    | (s, _) =>
      match s.traps.lookup "EXIT" with
      | none => (s, .exit)
      | some action =>
        let status := s.status
        match lines fuel { s with traps := s.traps.filter (·.1 ≠ "EXIT") }
          (Token.ofScript 1 action.toList) with
        | (s, .next) => (s.withStatus status, .exit)
        | (s, .killed n) => (s, .killed n)
        | (s, .stuck) => (s, .stuck)
        | (s, _) => (s, .exit)

/-- Reads and carries out one line of commands after another. -/
def lines : Nat → Session → List Lexeme → Result
  | 0, s, _ => ({ s with hangs := true }, .stuck)
  | fuel + 1, s, ts =>
    match Command.next? ts with
    | .error e => (({ s with line := max e.line s.line }.protest e.message).withStatus 2, .exit)
    | .ok none => (s, .next)
    | .ok (some (c, ts)) =>
      match exec fuel false s c with
      | (s, .next) => lines fuel s ts
      | (s, .break _) | (s, .continue _) => lines fuel s ts
      | r => r

end

end Execution

end ImageGateway.Shell
