import ImageGateway.Shell.Tool.Basic

/-!
Tools that make, copy, move and remove files.
-/

namespace ImageGateway.Shell.Tool

open FileName (quoted shown)

/-- The permission bits that new files may have. -/
def creationMask (mode : Nat) : Nat := mode &&& 0o755

/-- Copies what is below one place to another. -/
def copyBelow (fs : Files) (src dst : Place) : Files :=
  (fs.entries.filter fun x => src.isSuffixOf x.1).reverse.foldl (fun fs x =>
    fs.set (x.1.take (x.1.length - src.length) ++ dst) x.2) fs

def copyOne (deep force : Bool) (dest source : String) (s : Session) : Session × Nat :=
  let fail (text : String) : Session × Nat := (complain "cp" text s, 1)
  match locate s source true with
  | .error e => fail s!"cannot stat {quoted source}: {Session.reason e}"
  | .ok ⟨_, none⟩ => fail s!"cannot stat {quoted source}: {Errno.notFound.text}"
  | .ok ⟨p, some e⟩ =>
    let dest := inside s dest source
    let cannot (f : SystemFault) : Session × Nat :=
      fail s!"cannot create regular file {quoted dest}: {Session.reason f}"
    match e with
    | .dir =>
      if !deep then fail s!"-r not specified; omitting directory {quoted source}"
      else
        match locate s dest false with
        | .ok ⟨q, _⟩ => ({ s with files := copyBelow s.files p q }, 0)
        | .error f => fail s!"cannot create directory {quoted dest}: {Session.reason f}"
    | .device .zero => ({ s with hangs := true }, 1)
    | _ =>
      match locate s dest true with
      | .error f => cannot f
      | .ok ⟨q, old⟩ =>
        if q = p && old.isSome then fail s!"{quoted source} and {quoted dest} are the same file"
        else
          let dangling := match locate s dest false with
            | .ok ⟨_, some (.link _)⟩ => old.isNone
            | _ => false
          if dangling && !force then fail s!"not writing through dangling symlink {quoted dest}"
          else
            match e.content? with
            | .error f => fail s!"error reading {quoted source}: {Session.reason f}"
            | .ok content =>
              let mode := match e with
                | .file _ m => creationMask m
                | _ => defaultMode
              match old with
              | none => ({ s with files := s.files.set q (.file content mode) }, 0)
              | some (.file _ m) => ({ s with files := s.files.set q (.file content m) }, 0)
              | some .dir => fail s!"cannot overwrite directory {quoted dest} with non-directory"
              | some _ => (s, 0)

def cp : Tool := fun s args =>
  let (os, ops) := options args
  let deep := os.any fun c => c = 'r' || c = 'R' || c = 'a'
  match ops.reverse with
  | [] => (misused "cp" "missing file operand" s, 1)
  | [a] => (misused "cp" s!"missing destination file operand after {quoted a}" s, 1)
  | dest :: sources =>
    if 1 < sources.length && !isFolder s dest then
      (complain "cp" s!"target {quoted dest}: {Errno.notDirectory.text}" s, 1)
    else plural sources.reverse (copyOne deep false dest) s

def moveOne (dest source : String) (s : Session) : Session × Nat :=
  let fail (text : String) : Session × Nat := (complain "mv" text s, 1)
  match locate s source false with
  | .error e => fail s!"cannot stat {quoted source}: {Session.reason e}"
  | .ok ⟨_, none⟩ => fail s!"cannot stat {quoted source}: {Errno.notFound.text}"
  | .ok ⟨p, some e⟩ =>
    let dest := inside s dest source
    match locate s dest false with
    | .error f => fail s!"cannot move {quoted source} to {quoted dest}: {Session.reason f}"
    | .ok ⟨q, old⟩ =>
      if e = .dir && (lastName source = "." || lastName source = "..") then
        fail s!"cannot move {quoted source} to {quoted dest}: Device or resource busy"
      else if e = .dir && p ≠ q && p.isSuffixOf q then
        fail s!"cannot move {quoted source} to a subdirectory of itself, {quoted dest}"
      else if p = q then fail s!"{quoted source} and {quoted dest} are the same file"
      else if old = some .dir && e ≠ .dir then
        fail s!"cannot overwrite directory {quoted dest} with non-directory"
      else ({ s with files := (s.files.eraseBelow q).move p q }, 0)

def mv : Tool := fun s args =>
  match (options args).2.reverse with
  | [] => (misused "mv" "missing file operand" s, 1)
  | [a] => (misused "mv" s!"missing destination file operand after {quoted a}" s, 1)
  | dest :: sources =>
    if 1 < sources.length && !isFolder s dest then
      (complain "mv" s!"target {quoted dest}: {Errno.notDirectory.text}" s, 1)
    else plural sources.reverse (moveOne dest) s

def removeOne (deep force : Bool) (path : String) (s : Session) : Session × Nat :=
  let fail (text : String) : Session × Nat :=
    (complain "rm" s!"cannot remove {quoted path}: {text}" s, 1)
  match locate s path false with
  | .error (.os e) => if force && e = .notFound then (s, 0) else fail e.text
  | .error e => fail (Session.reason e)
  | .ok ⟨_, none⟩ => if force then (s, 0) else fail Errno.notFound.text
  | .ok ⟨p, some .dir⟩ =>
    if deep then ({ s with files := s.files.eraseBelow p }, 0) else fail Errno.isDirectory.text
  | .ok ⟨p, some _⟩ => ({ s with files := s.files.erase p }, 0)

def rm : Tool := fun s args =>
  let (os, ops) := options args
  let force := os.contains 'f'
  if ops.isEmpty then
    if force then (s, 0) else (misused "rm" "missing operand" s, 1)
  else plural ops (removeOne (os.any fun c => c = 'r' || c = 'R') force) s

def rmdir : Tool := fun s args =>
  plural (options args).2 (fun path s =>
    let fail (text : String) : Session × Nat :=
      (complain "rmdir" s!"failed to remove {quoted path}: {text}" s, 1)
    match locate s path false with
    | .error e => fail (Session.reason e)
    | .ok ⟨_, none⟩ => fail Errno.notFound.text
    | .ok ⟨p, some .dir⟩ =>
      if (s.files.children p).isEmpty then ({ s with files := s.files.erase p }, 0)
      else fail Errno.notEmpty.text
    | .ok ⟨_, some _⟩ => fail Errno.notDirectory.text) s

def mkdir : Tool := fun s args =>
  let (os, ops) := options args
  if ops.isEmpty then (misused "mkdir" "missing operand" s, 1)
  else plural ops (fun path s =>
    let (files, answer) :=
      if os.contains 'p' then s.files.makeDirAll s.cwd (toText path)
      else s.files.makeDir s.cwd (toText path)
    let s := { s with files := files }
    match answer with
    | .ok () => (s, 0)
    | .error e => (complain "mkdir" s!"cannot create directory {quoted path}: {Session.reason e}" s, 1)) s

def ln : Tool := fun s args =>
  let (os, ops) := options args
  let symbolic := os.contains 's'
  let kind := if symbolic then "symbolic link" else "hard link"
  let one (target link : String) : Session × Nat :=
    let link := inside s link target
    let fail (text : String) : Session × Nat :=
      let towards := if symbolic then (if target = "" then " -> ''" else "")
        else if text = Errno.alreadyExists.text then "" else s!" => {quoted target}"
      (complain "ln" s!"failed to create {kind} {quoted link}{towards}: {text}" s, 1)
    match locate s link false with
    | .error e => fail (Session.reason e)
    | .ok ⟨q, old⟩ =>
      if old.isSome && !os.contains 'f' then fail Errno.alreadyExists.text
      else if symbolic && target = "" then fail Errno.notFound.text
      else if symbolic then ({ s with files := s.files.set q (.link (toText target)) }, 0)
      else
        match locate s target false with
        | .ok ⟨_, some .dir⟩ => (complain "ln" s!"{shown target}: hard link not allowed for directory" s, 1)
        | .ok ⟨_, some e⟩ => ({ s with files := s.files.set q e }, 0)
        | .ok ⟨_, none⟩ =>
          (complain "ln" s!"failed to access {quoted target}: {Errno.notFound.text}" s, 1)
        | .error e => (complain "ln" s!"failed to access {quoted target}: {Session.reason e}" s, 1)
  match ops with
  | [] => (misused "ln" "missing file operand" s, 1)
  | [target] => one target "."
  | target :: link :: _ => one target link

def touch : Tool := fun s args =>
  if (options args).2.isEmpty then (misused "touch" "missing file operand" s, 1)
  else plural (options args).2 (fun path s =>
    match s.openWrite path true true with
    | (s, .ok _) => (s, 0)
    | (s, .error (.os e)) =>
      if e = .isDirectory then (s, 0)
      else (complain "touch" s!"cannot touch {quoted path}: {e.text}" s, 1)
    | (s, .error e) => (complain "touch" s!"cannot touch {quoted path}: {Session.reason e}" s, 1)) s

/-- The mode after a change written in octal, or as letters that set or clear the execution bits. -/
def changedMode (change : String) (mode : Nat) : Option Nat :=
  match Arithmetic.valueIn 8 change.toList with
  | some m => some m
  | none =>
    let bitsOf (cs : List Char) : Nat :=
      (if cs.contains 'x' then 0o111 else 0) ||| (if cs.contains 'r' then 0o444 else 0) |||
        (if cs.contains 'w' then 0o222 else 0)
    let whoBits (cs : List Char) : Nat :=
      if cs.isEmpty || cs.contains 'a' then 0o777
      else (if cs.contains 'u' then 0o700 else 0) ||| (if cs.contains 'g' then 0o070 else 0) |||
        (if cs.contains 'o' then 0o007 else 0)
    let who := change.toList.takeWhile fun c => c ≠ '+' && c ≠ '-' && c ≠ '='
    match change.toList.drop who.length with
    | '+' :: r => some (mode ||| (bitsOf r &&& whoBits who))
    | '-' :: r => some (mode - (mode &&& (bitsOf r &&& whoBits who)))
    | '=' :: r => some ((mode - (mode &&& whoBits who)) ||| (bitsOf r &&& whoBits who))
    | _ => none

def chmod : Tool := fun s args =>
  match args.filter (· ≠ "-R") with
  | change :: files@(_ :: _) =>
    plural files (fun path s =>
      match locate s path true with
      | .ok ⟨p, some (.file content mode)⟩ =>
        match changedMode change mode with
        | some m => ({ s with files := s.files.set p (.file content m) }, 0)
        | none => (complain "chmod" s!"invalid mode: {quoted change}" s, 1)
      | .ok ⟨_, some _⟩ => (s, 0)
      | .ok ⟨_, none⟩ => (complain "chmod" s!"cannot access {quoted path}: {Errno.notFound.text}" s, 1)
      | .error e => (complain "chmod" s!"cannot access {quoted path}: {Session.reason e}" s, 1)) s
  | _ => (misused "chmod" "missing operand" s, 1)

end ImageGateway.Shell.Tool
