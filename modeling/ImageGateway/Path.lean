/-!
Path names as text. A path is a list of names between slashes; `join` puts a relative path below a
directory and `absolute?` gives a path its place below the current directory, without `.` names
and repeated slashes. Nothing here looks at a file.
-/

namespace ImageGateway.Path

/-- The parts of a text between separators, the separators left out. There is one part more than
there are separators. -/
def segments (sep : Char) (cs : List Char) : List (List Char) :=
  cs.foldr (fun c parts =>
    if c = sep then [] :: parts
    else match parts with
      | [] => [[c]]
      | p :: ps => (c :: p) :: ps) [[]]

def isAbsolute (path : String) : Bool := path.toList.head? = some '/'

def endsWithSlash (path : String) : Bool := path.toList.getLast? = some '/'

/-- The names of a path in order; empty parts and `.` name nothing. -/
def names (path : String) : List String :=
  ((segments '/' path.toList).filter fun p => p ≠ [] && p ≠ ['.']).map String.ofList

/-- One path after another. An absolute second path stands for itself. -/
def join (base path : String) : String :=
  if isAbsolute path then path
  else if base = "" || endsWithSlash base then base ++ path
  else base ++ "/" ++ path

/-- `base` with each name put below it in turn. -/
def below (base : String) (ns : List String) : String := ns.foldl join base

/-- What an absolute path starts with: one slash, or two if there are exactly two. -/
def rootText (path : String) : String :=
  match path.toList with
  | '/' :: '/' :: '/' :: _ => "/"
  | '/' :: '/' :: _ => "//"
  | _ => "/"

/-- The absolute form of a path: below `cwd` unless it is absolute, without `.` names and repeated
slashes, with every `..` and a slash at the end. The empty path has none. -/
def absolute? (cwd path : String) : Option String :=
  if path = "" then none
  else
    let start := if isAbsolute path then rootText path else cwd
    let full := below start (names path)
    some (if endsWithSlash path && !endsWithSlash full then full ++ "/" else full)

/-- The last name of a path, unless it is `..`. -/
def fileName? (path : String) : Option String :=
  match (names path).getLast? with
  | some ".." => none
  | n => n

/-- What follows the last dot of the file name, if something precedes that dot. -/
def extension? (path : String) : Option String := do
  let name ← fileName? path
  match (segments '.' name.toList).reverse with
  | ext :: [before] => if before = [] then none else some (String.ofList ext)
  | ext :: _ :: _ => some (String.ofList ext)
  | _ => none

/-- Drops slashes and `.` names at the end of a reversed path, but not a slash at its start. -/
def dropIdleEnd : List Char → List Char
  | '/' :: c :: r => dropIdleEnd (c :: r)
  | '.' :: '/' :: r => dropIdleEnd ('/' :: r)
  | cs => cs

/-- The path without its last name; none for the root and the empty path. -/
def parent? (path : String) : Option String :=
  match dropIdleEnd path.toList.reverse with
  | [] => none
  | ['/'] => none
  | cs => some (String.ofList (dropIdleEnd (cs.dropWhile (· ≠ '/'))).reverse)

/-- A path with a NUL in it cannot be handed to the system. -/
def hasNul (path : String) : Bool := path.toList.any (· = '\x00')

/-- Longest name and longest path the system takes, in octets. -/
def maxName : Nat := 255
def maxPath : Nat := 4095

end ImageGateway.Path
