import ImageGateway.Shell.FileName
import ImageGateway.Shell.Format
import ImageGateway.Shell.Session

/-!
The programs that scripts find on the system. Each takes a session and its arguments and gives its
exit status; here is what they have in common.
-/

namespace ImageGateway.Shell

abbrev Tool := Session → List String → Session × Nat

namespace Tool

open FileName (quoted shown)

/-- Tells a mistake in the name of a tool. -/
def complain (tool text : String) (s : Session) : Session := s.print 2 (tool ++ ": " ++ text ++ "\n")

/-- Tells a mistake in the use of a tool, and where to read more. -/
def misused (tool text : String) (s : Session) : Session :=
  (complain tool text s).print 2 ("Try '" ++ tool ++ " --help' for more information.\n")

/-- Options, one letter each, and operands. A double hyphen ends the options. -/
def options : List String → List Char × List String
  | [] => ([], [])
  | "--" :: rest => ([], rest)
  | a :: rest =>
    let (os, ops) := options rest
    match a.toList with
    | '-' :: '-' :: long =>
      let letter := match String.ofList long with
        | "recursive" => ['r']
        | "force" => ['f']
        | "parents" => ['p']
        | "symbolic" => ['s']
        | "quiet" | "silent" => ['q']
        | "lines" => ['l']
        | "bytes" => ['c']
        | _ => []
      (letter ++ os, ops)
    | '-' :: letters@(_ :: _) => (letters ++ os, ops)
    | _ => (os, a :: ops)

/-- The long names of options, which may be cut short. -/
def longNames : List String :=
  ["recursive", "force", "parents", "symbolic", "quiet", "silent", "lines", "bytes", "verbose",
    "version", "help", "no-clobber", "interactive", "archive", "update", "target-directory",
    "no-target-directory", "dereference", "no-dereference", "preserve", "mode", "all"]

/-- The first letter of a word that is no option; a letter with a colon behind it in the list takes
what follows, in the next word if nothing is left of its own. -/
def badLetter? (letters : List Char) : List Char → Option Char × Bool
  | [] => (none, false)
  | c :: rest =>
    match letters.dropWhile (· ≠ c) with
    | _ :: ':' :: _ => (none, rest.isEmpty)
    | [] => (some c, false)
    | _ => badLetter? letters rest

/-- What is wrong with the options, if anything is. -/
def badOption? (letters : List Char) : List String → Option String
  | [] => none
  | a :: rest =>
    match a.toList with
    | ['-', '-'] => none
    | '-' :: '-' :: long =>
      let name := long.takeWhile (· ≠ '=')
      if longNames.any fun n => name.isPrefixOf n.toList then badOption? letters rest
      else some s!"unrecognized option {quoted a}"
    | '-' :: word@(_ :: _) =>
      match badLetter? letters word with
      | (some c, _) => some s!"invalid option -- {quoted (String.ofList [c])}"
      | (none, true) => badOption? letters (rest.drop 1)
      | (none, false) => badOption? letters rest
    | _ => badOption? letters rest
  termination_by args => args.length

/-- A tool that looks at its options first. -/
def checked (name letters : String) (status : Nat) (tool : Tool) : Tool := fun s args =>
  match badOption? letters.toList args with
  | some text => (misused name text s, status)
  | none => tool s args

def plural (items : List String) (one : String → Session → Session × Nat) (s : Session) : Session × Nat :=
  items.foldl (fun (s, n) a =>
    let (s, m) := one a s
    (s, max n m)) (s, 0)

/-- Where a path leads, with or without following a link at its end. -/
def locate (s : Session) (path : String) (follow : Bool) : Except SystemFault Spot :=
  s.files.locate s.cwd (toText path) follow

def isFolder (s : Session) (path : String) : Bool := s.files.isDir s.cwd (toText path)

/-- The last name of a path as it is written. -/
def lastName (path : String) : String :=
  let cs := path.toList.reverse.dropWhile (· = '/')
  if cs.isEmpty then (if path = "" then "" else "/")
  else String.ofList (cs.takeWhile (· ≠ '/')).reverse

/-- The path without its last name. -/
def folderName (path : String) : String :=
  let cs := path.toList.reverse.dropWhile (· = '/')
  let up := (cs.dropWhile (· ≠ '/')).dropWhile (· = '/')
  if up.isEmpty then (if path.toList.head? = some '/' then "/" else ".") else String.ofList up.reverse

/-- A destination: inside it if it is a directory. -/
def inside (s : Session) (dest source : String) : String :=
  if isFolder s dest then Path.join dest (lastName source) else dest

end Tool

end ImageGateway.Shell
