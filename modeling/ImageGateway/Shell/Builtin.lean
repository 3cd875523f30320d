import ImageGateway.Shell.Expansion
import ImageGateway.Shell.Format
import ImageGateway.Shell.Signal
import ImageGateway.Shell.Test
import ImageGateway.Shell.Tool.Catalogue

/-!
Commands that the shell carries out itself and that neither run other commands nor leave the
script.
-/

namespace ImageGateway.Shell

namespace Builtin

def echo : Tool := fun s args =>
  match s.write 1 (octets (Format.echo args)) with
  | (s, true) => (s, 0)
  | (s, false) => (s.complain "echo: echo: I/O error", 1)

def printf : Tool := fun s args =>
  match args with
  | [] => (s.complain "printf: usage: printf format [arg ...]", 2)
  | format :: rest =>
    let (format, rest) := if format = "--" then (rest.headD "", rest.tail) else (format, rest)
    let badOption := match args.head?.map String.toList with
      | some ('-' :: c :: _) => if c = '-' then none else some c
      | _ => none
    match badOption with
    | some c => (s.complain ("printf: Illegal option " ++ String.ofList ['-', c]), 2)
    | none =>
    let (out, complaints, status) := Format.printf format rest
    let (s, written) := s.write 1 (octets out)
    let s := complaints.foldl (fun s c => s.complain ("printf: " ++ c)) s
    (s, if status = 0 && !written then 1 else status)

def test (name : String) : Tool := fun s args =>
  let conclude (ws : List String) : Session × Nat :=
    match Test.eval s ws with
    | .ok v => (s, if v then 0 else 1)
    | .error e => (s.complain (name ++ ": " ++ e), 2)
  if name = "[" then
    if args.getLast? = some "]" then conclude args.dropLast
    else (s.complain "[: missing ]", 2)
  else conclude args

/-- The way to a place, as text. -/
def placeText (p : Place) : String := ofText ("/" ++ "/".intercalate p.reverse)

/-- A path without `.` and with `..` taken back. -/
def tidy (path : String) : String :=
  let names := (Path.names path).foldl (fun acc n => if n = ".." then acc.tail else n :: acc) []
  "/" ++ "/".intercalate names.reverse

def cd : Tool := fun s args =>
  let unknown := args.head?.bind fun a => match a.toList with
    | '-' :: c :: _ => if c = 'P' || c = 'L' || c = '-' then none else some c
    | _ => none
  let args := args.filter fun a => a ≠ "-P" && a ≠ "-L" && a ≠ "--"
  let target := match args with
    | [] => (s.get? "HOME").getD "/root"
    | "-" :: _ => (s.get? "OLDPWD").getD s.path
    | a :: _ => a
  let path := tidy (Path.join s.path target)
  if let some c := unknown then (s.complain ("cd: Illegal option -" ++ String.ofList [c]), 2) else
  match s.files.locate [] (toText path) true with
  | .ok ⟨p, some .dir⟩ =>
    let s := ((s.set "OLDPWD" s.path).set "PWD" path)
    let s := if args.head? = some "-" then s.print 1 (path ++ "\n") else s
    ({ s with cwd := p, path := path }, 0)
  | _ => (s.complain s!"cd: can't cd to {target}", 2)

def pwd : Tool := fun s args =>
  (s.print 1 ((if args.contains "-P" then placeText s.cwd else s.path) ++ "\n"), 0)

/-- One line from the standard input, and whether it had an end. With `raw` a backslash is a
character like any other; else it protects the next one. -/
def readLine (raw : Bool) : Nat → List Item → List Char → Nat → List Item × Nat × Bool
  | 0, done, _, n => (done.reverse, n, false)
  | _ + 1, done, [], n => (done.reverse, n, false)
  | fuel + 1, done, c :: s, n =>
    if c = '\n' then (done.reverse, n + 1, true)
    else if c = '\\' && !raw then
      match s with
      | '\n' :: r => readLine raw fuel done r (n + 2)
      | d :: r => readLine raw fuel (.quoted d :: done) r (n + 2)
      | [] => readLine raw fuel done [] (n + 1)
    else readLine raw fuel (.expanded c :: done) s (n + 1)

/-- Gives the words of a line to names; the last name takes what is left. -/
def assign (separators : List Char) : List String → List Item → Session → Session
  | [], _, s => s
  | [x], items, s =>
    let isGap (i : Item) : Bool := match i with
      | .expanded c => separators.contains c && Expansion.isBlankSeparator c
      | _ => false
    let kept := ((items.dropWhile isGap).reverse.dropWhile isGap).reverse
    s.set x (Expansion.plainText kept)
  | x :: xs, items, s =>
    let isSep (i : Item) : Bool := match i with
      | .expanded c => separators.contains c
      | _ => false
    let isGap (i : Item) : Bool := match i with
      | .expanded c => separators.contains c && Expansion.isBlankSeparator c
      | _ => false
    let items := items.dropWhile isGap
    let word := items.takeWhile fun i => !isSep i
    let rest := (items.drop word.length).dropWhile isGap
    let rest := match rest with
      | i :: r => if isSep i && !isGap i then r else rest
      | [] => []
    assign separators xs rest (s.set x (Expansion.plainText word))

def read : Tool := fun s args =>
  let raw := args.contains "-r"
  let names := args.filter (· ≠ "-r")
  if names.isEmpty then (s.complain "read: arg count", 2)
  else match s.pending 0 with
  | .error _ => (s, 1)
  | .ok content =>
    let text := (ofOctets content).toList
    let (items, used, ended) := readLine raw (text.length + 1) [] text 0
    let s := s.advance 0 used
    (assign s.separators names items s, if ended then 0 else 1)

def isName (x : String) : Bool :=
  match x.toList with
  | c :: r => Token.isNameStart c && r.all Token.isNameChar
  | [] => false

/-- Declares variables with words of the form `name` or `name=value`: `mark` is told every name
before its value is set. -/
def declare (tool : String) (mark : String → Session → Session) : List String → Tool := fun options s args =>
  let rec go : List String → Session → Session × Nat
    | [], s => (s, 0)
    | a :: rest, s =>
      let x := String.ofList (a.toList.takeWhile (· ≠ '='))
      let value := (a.toList.dropWhile (· ≠ '=')).tail
      if !isName x then (s.complain s!"{tool}: {x}: bad variable name", 2)
      else if a.toList.contains '=' && s.constant.contains x then
        (s.complain s!"{tool}: {x}: is read only", 2)
      else
        let s := mark x s
        go rest (if a.toList.contains '=' then s.set x (String.ofList value) else s)
  go (args.filter fun a => !options.contains a) s

/-- Programs are given these variables from now on. -/
def exportAll : Tool :=
  declare "export" (fun x s => { s with exported := x :: s.exported }) ["-p", "--"]

/-- These variables keep their value from now on. -/
def readonly : Tool := fun s args =>
  let (s, status) := declare "readonly" (fun _ s => s) ["-p", "--"] s args
  let names := (args.filter fun a => a ≠ "-p" && a ≠ "--").map fun a =>
    String.ofList (a.toList.takeWhile (· ≠ '='))
  (if status = 0 then { s with constant := names ++ s.constant } else s, status)

/-- Makes variables those of the function that is running. -/
def makeOwn : Tool := fun s args =>
  match s.outerValues with
  | none => (s.complain "local: not in a function", 2)
  | some _ =>
    declare "local" (fun x s =>
      let known := s.outerValues.getD []
      if known.any (·.1 = x) then s
      else { s with outerValues := some ((x, s.get? x) :: known) }) ["--"] s args

def unset : Tool := fun s args =>
  let names := args.filter fun x => x ≠ "-f" && x ≠ "-v" && x ≠ "--"
  match names.find? fun x => !args.contains "-f" && (!isName x || s.constant.contains x) with
  | some x =>
    (s.complain (if isName x then s!"unset: {x}: is read only" else s!"unset: {x}: bad variable name"), 2)
  | none =>
    (names.foldl (fun s x =>
      { s.unset x with functions := s.functions.filter (·.1 ≠ x) }) s, 0)

def shift : Tool := fun s args =>
  let n := ((args.head?.bind String.toNat?).getD 1)
  if s.arguments.length < n then (s.complain "shift: can't shift that many", 2)
  else ({ s with arguments := s.arguments.drop n }, 0)

/-- Options of the shell itself; what is no option becomes the arguments. -/
def set : Tool := fun s args =>
  let rec go : List String → Session → Session
    | [], s => s
    | "--" :: rest, s => { s with arguments := rest }
    | "-o" :: _ :: rest, s => go rest s
    | "+o" :: _ :: rest, s => go rest s
    | a :: rest, s =>
      match a.toList with
      | '-' :: letters@(_ :: _) =>
        go rest { s with
          endsOnFailure := s.endsOnFailure || letters.contains 'e'
          needsSet := s.needsSet || letters.contains 'u' }
      | '+' :: letters@(_ :: _) =>
        go rest { s with
          endsOnFailure := s.endsOnFailure && !letters.contains 'e'
          needsSet := s.needsSet && !letters.contains 'u' }
      | _ => { s with arguments := a :: rest }
  (go args s, 0)

/-- What to do at signals; a hyphen takes it back. -/
def trap : Tool := fun s args =>
  match args.filter (· ≠ "--") with
  | [] => (s, 0)
  | [_] => (s, 0)
  | action :: signals =>
    let nameOf (t : String) : String :=
      if t = "0" || t = "EXIT" then "EXIT" else ((Signal.ofText? t).map Signal.nameOf).getD t
    (signals.foldl (fun s t =>
      let others := s.traps.filter (·.1 ≠ nameOf t)
      { s with traps := if action = "-" then others else (nameOf t, action) :: others }) s, 0)

/-- Tells which permissions new files do not get. -/
def umask : Tool := fun s args => (if args.isEmpty then s.print 1 "0022\n" else s, 0)

/-- The commands of this module by their names. -/
def all : List (String × Tool) := [
  ("echo", echo), ("printf", printf), ("test", test "test"), ("[", test "["), ("cd", cd),
  ("chdir", cd), ("pwd", pwd), ("read", read), ("export", exportAll), ("readonly", readonly),
  ("local", makeOwn), ("unset", unset), ("shift", shift), ("set", set), ("trap", trap),
  (":", Tool.ending 0), ("true", Tool.ending 0), ("false", Tool.ending 1),
  ("umask", umask), ("ulimit", Tool.ending 0), ("wait", Tool.ending 0),
  ("times", Tool.ending 0), ("hash", Tool.ending 0), ("alias", Tool.ending 0),
  ("unalias", Tool.ending 0)]

/-- Commands whose failing redirection ends the script. -/
def special : List String :=
  [":", "export", "readonly", "local", "unset", "shift", "set", "trap", "times", "eval", "exec", "exit",
    "return", "break", "continue", "."]

end Builtin

end ImageGateway.Shell
