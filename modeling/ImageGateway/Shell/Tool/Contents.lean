import ImageGateway.Shell.Tool.Basic

/-!
Tools that read the content of files or of the standard input, and write all or parts of it.
-/

namespace ImageGateway.Shell.Tool

open FileName (quoted shown)

/-- Why a file cannot be opened, in the words of a tool. -/
def unopened (tool path reason : String) : String :=
  match tool with
  | "head" | "tail" => s!"cannot open {quoted path} for reading: {reason}"
  | "sort" => s!"cannot read: {shown path}: {reason}"
  | "grep" => s!"{path}: {reason}"
  | _ => s!"{shown path}: {reason}"

/-- Why an open file cannot be read, in the words of a tool. -/
def unread (tool path reason : String) : String :=
  match tool with
  | "head" | "tail" | "uniq" => s!"error reading {quoted path}: {reason}"
  | "sort" => s!"read failed: {shown path}: {reason}"
  | "grep" => s!"{path}: {reason}"
  | _ => s!"{shown path}: {reason}"

/-- Runs over the content of each operand, or of the standard input if there is none; `-` is the
standard input too. -/
def overInputs (tool : String) (operands : List String)
    (use : Option String → Bytes → Session → Session) (s : Session) : Session × Nat :=
  let fromInput (name : Option String) (s : Session) : Session × Nat :=
    if s.isEndless 0 then ({ s with hangs := true }, 1)
    else
      match s.pending 0 with
      | .ok content => (use name content (s.advance 0 content.length), 0)
      | .error e => (complain tool s!"-: {e.text}" s, 1)
  if operands.isEmpty then fromInput none s
  else plural operands (fun path s =>
    if path = "-" || path = "/dev/stdin" then fromInput (some path) s
    else
      match s.find path with
      | .error e => (complain tool (unopened tool path (Session.reason e)) s, 1)
      | .ok (.device .zero) => ({ s with hangs := true }, 1)
      | .ok entry =>
        match entry.content? with
        | .ok content => (use (some path) content s, 0)
        | .error e => (complain tool (unread tool path (Session.reason e)) s, 1)) s

def cat : Tool := fun s args =>
  overInputs "cat" (options args).2 (fun _ content s => (s.write 1 content).1) s

def newline : UInt8 := 10

/-- The lines of a text, each with its end. -/
def linesOf (bs : Bytes) : List Bytes :=
  bs.foldr (fun b acc =>
    if b = newline then [b] :: acc
    else match acc with
      | [] => [[b]]
      | l :: ls => (b :: l) :: ls) []

/-- Words between blanks. -/
def countWords (bs : Bytes) : Nat :=
  (bs.foldl (fun (n, inWord) b =>
    let blank := b = 32 || (9 ≤ b && b ≤ 13)
    if blank then (n, false) else (if inWord then n else n + 1, true)) (0, false)).1

def padLeft (width : Nat) (t : String) : String :=
  String.ofList (List.replicate (width - t.length) ' ') ++ t

/-- The size of the regular file behind a name, or behind the standard input. -/
def regularSize? (s : Session) (name : Option String) : Option Nat :=
  match name with
  | none | some "-" | some "/dev/stdin" =>
    match s.stream? 0 with
    | some (_, ⟨.file place _, _⟩) =>
      match s.files.get? place with
      | some (.file content _) => some content.length
      | _ => none
    | _ => none
  | some path =>
    match s.find path with
    | .ok (.file content _) => some content.length
    | _ => none

/-- What a name of an operand leads to is there, though it need not be a regular file. -/
def isThere (s : Session) (name : Option String) : Bool :=
  match name with
  | some path => path = "-" || (s.find path).toOption.isSome
  | none => true

/-- How wide `wc` writes a number: as wide as the size of all files together, and not narrower than
seven if one of them has no size. -/
def countWidth (s : Session) (names : List (Option String)) (kinds : Nat) : Nat :=
  if names.length = 1 && kinds = 1 || !(names.head?.any (isThere s)) then 1
  else
    let there := names.filter (isThere s)
    let digits := (toString (there.foldl (fun size n => size + (regularSize? s n).getD 0) 0)).length
    if there.all fun n => (regularSize? s n).isSome then digits else max 7 digits

def wc : Tool := fun s args =>
  let (os, ops) := options args
  let kinds := if os.isEmpty then ['l', 'w', 'c'] else ['l', 'w', 'm', 'c'].filter os.contains
  let width := countWidth s (if ops.isEmpty then [none] else ops.map some) kinds.length
  let number (content : Bytes) (c : Char) : Nat :=
    if c = 'l' then content.count newline
    else if c = 'w' then countWords content
    else content.length
  let row (numbers : List Nat) (name : List String) (s : Session) : Session :=
    let cells := numbers.map fun n => padLeft width (toString n)
    s.print 1 (" ".intercalate (cells ++ name) ++ "\n")
  let count (content : Bytes) : List Nat := kinds.map (number content)
  let one (path : String) (s : Session) (totals : List Nat) : Session × Nat × List Nat :=
    if path = "" then (complain "wc" "invalid zero-length file name" s, 1, totals)
    else
      let (s, status) := overInputs "wc" [path] (fun _ content s => row (count content) [shown path] s) s
      match s.find path with
      | .ok .dir => (row (kinds.map fun _ => 0) [shown path] s, status, totals)
      | .ok entry =>
        match entry.content? with
        | .ok content => (s, status, List.zipWith (· + ·) totals (count content))
        | .error _ => (s, status, totals)
      | .error _ => (s, status, totals)
  match ops with
  | [] => overInputs "wc" [] (fun _ content s => row (count content) [] s) s
  | _ =>
    let (s, status, totals) := ops.foldl (fun (s, status, totals) path =>
      let (s, n, totals) := one path s totals
      (s, max n status, totals)) (s, 0, kinds.map fun _ => 0)
    (if 1 < ops.length then row totals ["total"] s else s, status)

/-- How much `head` and `tail` take: lines or octets, counted from the other side with a sign. -/
structure Extent where
  octets : Bool := false
  count : Nat := 10
  signed : Option Char := none

def extentOf (octets : Bool) (t : String) : Extent :=
  let (sign, ds) := match t.toList with
    | '+' :: r => (some '+', r)
    | '-' :: r => (some '-', r)
    | r => (none, r)
  let unit := match ds.dropWhile Char.isDigit with
    | 'k' :: _ | 'K' :: _ => 1024
    | 'M' :: _ => 1048576
    | _ => 1
  ⟨octets, ((String.ofList (ds.takeWhile Char.isDigit)).toNat?.getD 0) * unit, sign⟩

def extentArgs : Extent → List String → Extent × List String
  | x, [] => (x, [])
  | _, "-c" :: n :: rest => extentArgs (extentOf true n) rest
  | _, "-n" :: n :: rest => extentArgs (extentOf false n) rest
  | x, a :: rest =>
    match a.toList with
    | '-' :: 'c' :: n@(_ :: _) => extentArgs (extentOf true (String.ofList n)) rest
    | '-' :: 'n' :: n@(_ :: _) => extentArgs (extentOf false (String.ofList n)) rest
    | '-' :: n@(d :: _) =>
      if d.isDigit then extentArgs (extentOf false (String.ofList n)) rest
      else extentArgs x rest
    | _ =>
      let (y, ops) := extentArgs x rest
      (y, a :: ops)

def headOf (x : Extent) (content : Bytes) : Bytes :=
  let fromEnd := x.signed = some '-'
  if x.octets then content.take (if fromEnd then content.length - x.count else x.count)
  else
    let ls := linesOf content
    (ls.take (if fromEnd then ls.length - x.count else x.count)).flatten

def tailOf (x : Extent) (content : Bytes) : Bytes :=
  let fromStart := x.signed = some '+'
  if x.octets then content.drop (if fromStart then x.count - 1 else content.length - x.count)
  else
    let ls := linesOf content
    (ls.drop (if fromStart then x.count - 1 else ls.length - x.count)).flatten

/-- A line that tells which file the following lines are from, if there are several. -/
def heading (operands : List String) (name : Option String) : String :=
  match name with
  | some path =>
    if operands.length < 2 then ""
    else
      let shownName := if path = "-" then "standard input" else path
      (if operands.head? = name then "" else "\n") ++ s!"==> {shownName} <==\n"
  | none => ""

/-- The front of an endless stream of zeros. -/
def zeros (x : Extent) : Option Bytes :=
  if x.octets && x.signed.isNone then some (List.replicate x.count 0) else none

def head : Tool := fun s args =>
  let (x, ops) := extentArgs {} args
  let zero : Bool := match ops with
    | [path] => (s.find path).toOption == some (Entry.device .zero)
    | _ => ops.isEmpty && s.isEndless 0
  if zero then
    match zeros x with
    | some bs => ((s.write 1 bs).1, 0)
    | none => ({ s with hangs := true }, 1)
  else overInputs "head" ops (fun name content s =>
    ((s.print 1 (heading ops name)).write 1 (headOf x content)).1) s

def tail : Tool := fun s args =>
  let (x, ops) := extentArgs {} args
  overInputs "tail" ops (fun name content s =>
    ((s.print 1 (heading ops name)).write 1 (tailOf x content)).1) s

def tee : Tool := fun s args =>
  let (os, ops) := options args
  overInputs "tee" [] (fun _ content s =>
    let s := (s.write 1 content).1
    ops.foldl (fun s path =>
      match s.openWrite path (os.contains 'a') false with
      | (s, .ok t) =>
        let (s, n) := s.addStream t
        ((s.connect 99 n).write 99 content).1.close 99
      | (s, .error e) => complain "tee" s!"{shown path}: {Session.reason e}" s) s) s

/-- The characters of a set for `tr`, with ranges and a few classes. -/
def charSet : List Char → List Char
  | '[' :: ':' :: r =>
    let name := String.ofList (r.takeWhile (· ≠ ':'))
    let range (a b : Char) : List Char :=
      (List.range (b.toNat + 1 - a.toNat)).map fun i => Char.ofNat (a.toNat + i)
    match name with
    | "lower" => range 'a' 'z'
    | "upper" => range 'A' 'Z'
    | "digit" => range '0' '9'
    | "alpha" => range 'A' 'Z' ++ range 'a' 'z'
    | "alnum" => range '0' '9' ++ range 'A' 'Z' ++ range 'a' 'z'
    | "space" => [' ', '\t', '\n', '\r', '\x0b', '\x0c']
    | _ => []
  | a :: '-' :: b :: r =>
    ((List.range (b.toNat + 1 - a.toNat)).map fun i => Char.ofNat (a.toNat + i)) ++ charSet r
  | '\\' :: 'n' :: r => '\n' :: charSet r
  | '\\' :: 't' :: r => '\t' :: charSet r
  | '\\' :: 'r' :: r => '\r' :: charSet r
  | '\\' :: '0' :: '0' :: '0' :: r => '\x00' :: charSet r
  | '\\' :: '0' :: r => '\x00' :: charSet r
  | '\\' :: c :: r => c :: charSet r
  | c :: r => c :: charSet r
  | [] => []

def tr : Tool := fun s args =>
  let (os, sets) := options args
  let given := charSet ((sets.headD "").toList)
  let wanted := charSet ((sets.getD 1 "").toList)
  let change (c : Char) : Char :=
    match given.idxOf? c with
    | some i => wanted.getD i (wanted.getLastD c)
    | none => c
  overInputs "tr" [] (fun _ content s =>
    let text := (ofOctets content).toList
    let out := if os.contains 'd' then text.filter fun c => !given.contains c else text.map change
    s.print 1 (String.ofList out)) s

def textLines (content : Bytes) : List String :=
  (linesOf content).map fun l => ofOctets (l.filter (· ≠ newline))

def printLines (ls : List String) (s : Session) : Session :=
  s.print 1 (String.join (ls.map (· ++ "\n")))

def sort : Tool := fun s args =>
  let (os, ops) := options args
  overInputs "sort" ops (fun _ content s =>
    let ls := textLines content
    let key (l : String) : Int := (l.trimAscii.toString.toInt?).getD 0
    let sorted := if os.contains 'n' then ls.mergeSort fun a b => key a ≤ key b
      else ls.mergeSort fun a b => a ≤ b
    let sorted := if os.contains 'u' then sorted.eraseDups else sorted
    printLines (if os.contains 'r' then sorted.reverse else sorted) s) s

def uniq : Tool := fun s args =>
  overInputs "uniq" (options args).2 (fun _ content s =>
    let kept := (textLines content).foldl (fun (acc : List String) l =>
      if acc.head? = some l then acc else l :: acc) []
    printLines kept.reverse s) s

/-- A text is somewhere in another. -/
def occurs (needle : List Char) : List Char → Bool
  | [] => needle.isEmpty
  | c :: s => needle.isPrefixOf (c :: s) || occurs needle s

/-- Lines that hold a text; a caret and a dollar sign tie it to the ends of the line. -/
def grepLine (ignoreCase : Bool) (pattern line : String) : Bool :=
  let fold (t : String) : List Char := if ignoreCase then t.toList.map Char.toLower else t.toList
  let (atStart, p) := match fold pattern with
    | '^' :: r => (true, r)
    | p => (false, p)
  let (atEnd, p) := match p.reverse with
    | '$' :: r => (true, r.reverse)
    | _ => (false, p)
  let l := fold line
  if atStart && atEnd then l = p
  else if atStart then p.isPrefixOf l
  else if atEnd then p.isSuffixOf l
  else occurs p l

def grep : Tool := fun s args =>
  let (os, ops) := options args
  let usage (s : Session) : Session × Nat :=
    ((s.print 2 "Usage: grep [OPTION]... PATTERNS [FILE]...\n").print 2
      "Try 'grep --help' for more information.\n", 2)
  match badOption? "abcEFGhHiIlLnoPqrRsTuUvVwxyzZA:B:C:e:f:m:".toList args, ops with
  | some text, _ => usage (complain "grep" text s)
  | none, [] => usage s
  | none, pattern :: files =>
    let fits (l : String) : Bool := grepLine (os.contains 'i') pattern l != os.contains 'v'
    let texts := files.map fun f => (s.find f).bind Entry.content?
    let found := if files.isEmpty then
        match s.pending 0 with
        | .ok content => (textLines content).any fits
        | .error _ => false
      else texts.any fun t => match t with
        | .ok content => (textLines content).any fits
        | .error _ => false
    let (s, status) := overInputs "grep" files (fun name content s =>
      let ls := (textLines content).filter fits
      let mark := match name with
        | some f => if 1 < files.length then f ++ ":" else ""
        | none => ""
      if os.contains 'q' then s
      else if os.contains 'c' then s.print 1 (mark ++ toString ls.length ++ "\n")
      else printLines (ls.map (mark ++ ·)) s) s
    (s, if status ≠ 0 then 2 else if found then 0 else 1)

def ls : Tool := fun s args =>
  let (os, ops) := options args
  let all := os.contains 'a' || os.contains 'A'
  let shown (p : Place) : List String :=
    let names := ((s.files.children p).filter fun n => all || n.toList.head? ≠ some '.').mergeSort
    (if os.contains 'a' then [".", ".."] else []) ++ names.map ofText
  plural (if ops.isEmpty then ["."] else ops) (fun path s =>
    match locate s path true with
    | .ok ⟨p, some .dir⟩ =>
      if os.contains 'd' then (printLines [path] s, 0) else (printLines (shown p) s, 0)
    | .ok ⟨_, some _⟩ => (printLines [path] s, 0)
    | .ok ⟨_, none⟩ => (complain "ls" s!"cannot access {quoted path}: {Errno.notFound.text}" s, 2)
    | .error e => (complain "ls" s!"cannot access {quoted path}: {Session.reason e}" s, 2)) s

/-- The value of an operand `name=value`. -/
def setting? (name : String) (args : List String) : Option String :=
  args.findSome? fun a => if a.startsWith (name ++ "=") then some (a.drop (name.length + 1)).toString else none

/-- Copies blocks from an input to an output. -/
def dd : Tool := fun s args =>
  let size := (extentOf true ((setting? "bs" args).getD "512")).count
  let count := (setting? "count" args).map fun n => (extentOf true n).count * size
  let input : Except String (Option Bytes) :=
    match setting? "if" args with
    | none => match s.pending 0 with
      | .ok b => .ok (some b)
      | .error e => .error s!"error reading 'standard input': {e.text}"
    | some path =>
      match s.find path with
      | .ok (.device .zero) => .ok none
      | .ok e => match e.content? with
        | .ok b => .ok (some b)
        | .error f => .error s!"error reading {quoted path}: {Session.reason f}"
      | .error f => .error s!"failed to open {quoted path}: {Session.reason f}"
  match input with
  | .error m => (complain "dd" m s, 1)
  | .ok content =>
    let data? : Option Bytes := match content, count with
      | some b, some n => some (b.take n)
      | some b, none => some b
      | none, some n => some (List.replicate n 0)
      | none, none => none
    match data? with
    | none => ({ s with hangs := true }, 1)
    | some d =>
      match setting? "of" args with
      | none => ((s.write 1 d).1, 0)
      | some path =>
        match s.openWrite path false false with
        | (s, .ok t) =>
          let (s, n) := s.addStream t
          (((s.connect 99 n).write 99 d).1.close 99, 0)
        | (s, .error f) => (complain "dd" s!"failed to open {quoted path}: {Session.reason f}" s, 1)

def truncate : Tool := fun s args =>
  let (size, files) := match args with
    | "-s" :: n :: files => ((extentOf true n).count, files)
    | _ => (0, args)
  plural files (fun path s =>
    match s.openWrite path false true with
    | (s, .ok (.file p _)) =>
      match s.files.get? p with
      | some (.file content mode) =>
        let kept := content.take size
        let changed : Entry := .file (kept ++ List.replicate (size - kept.length) 0) mode
        ({ s with files := s.files.set p changed }, 0)
      | _ => (s, 0)
    | (s, .ok _) => (s, 0)
    | (s, .error e) => (complain "truncate" s!"cannot open {quoted path} for writing: {Session.reason e}" s, 1)) s

def cmp : Tool := fun s args =>
  match (options args).2 with
  | [a, b] =>
    match (s.find a).bind Entry.content?, (s.find b).bind Entry.content? with
    | .ok x, .ok y => (s, if x = y then 0 else 1)
    | _, _ => (s, 2)
  | _ => (complain "cmp" "missing operand" s, 2)

def readlink : Tool := fun s args =>
  plural (options args).2 (fun path s =>
    match locate s path false with
    | .ok ⟨_, some (.link t)⟩ => (s.print 1 (ofText t ++ "\n"), 0)
    | _ => (s, 1)) s

def realpath : Tool := fun s args =>
  plural (options args).2 (fun path s =>
    match locate s path true with
    | .ok ⟨p, _⟩ => (s.print 1 (ofText ("/" ++ "/".intercalate p.reverse) ++ "\n"), 0)
    | .error e => (complain "realpath" s!"{shown path}: {Session.reason e}" s, 1)) s

end ImageGateway.Shell.Tool
