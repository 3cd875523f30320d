import ImageGateway.Files.Basic
import ImageGateway.Path
import ImageGateway.SystemFault
import ImageGateway.Text.Utf8

/-!
From path names to places. A walk goes name by name, steps back at `..`, enters directories only,
and follows at most forty links. It ends at an entry, or at a free place in a directory.
-/

namespace ImageGateway

/-- The end of a walk: a place, and the entry at it if it is not free. -/
structure Spot where
  place : Place
  entry : Option Entry
  deriving DecidableEq, Repr

/-- How many octets a text takes. -/
def octetLength (s : String) : Nat := s.utf8ByteSize

/-- Names as a walk takes them: empty parts are left out, `.` is kept since it asks for a
directory, and so does a slash at the end. -/
def Path.steps (path : String) : List String :=
  ((Path.segments '/' path.toList).filter (· ≠ [])).map String.ofList ++
    (if Path.endsWithSlash path then ["."] else [])

namespace Files

/-- The number of links one walk may follow. -/
def maxLinks : Nat := 40

/-- Walks on from the directory `cur` to the first link that is to be followed, and from there as
`onLink` does. With `follow`, a link at the very end is followed too. -/
def walkToLink (fs : Files) (follow : Bool) (onLink : Place → List String → Except Errno Spot)
    (cur : Place) : List String → Except Errno Spot
  | [] => .ok ⟨cur, fs.get? cur⟩
  | name :: rest =>
    if name = "." then walkToLink fs follow onLink cur rest
    else if name = ".." then walkToLink fs follow onLink cur.tail rest
    else if Path.maxName < octetLength name then .error .nameTooLong
    else
      match fs.get? (name :: cur) with
      | none => if rest = [] then .ok ⟨name :: cur, none⟩ else .error .notFound
      | some .dir => walkToLink fs follow onLink (name :: cur) rest
      | some (.link target) =>
        if rest = [] && !follow then .ok ⟨name :: cur, some (.link target)⟩
        else onLink (if Path.isAbsolute target then [] else cur) (Path.steps target ++ rest)
      | some e => if rest = [] then .ok ⟨name :: cur, some e⟩ else .error .notDirectory

/-- Walks on from a directory by way of at most so many links. -/
def walk (fs : Files) (follow : Bool) : Nat → Place → List String → Except Errno Spot
  | 0 => fs.walkToLink follow fun _ _ => .error .tooManyLinks
  | links + 1 => fs.walkToLink follow (fs.walk follow links)

theorem walk_zero (fs : Files) (follow : Bool) :
    fs.walk follow 0 = fs.walkToLink follow fun _ _ => .error .tooManyLinks := rfl

theorem walk_succ (fs : Files) (follow : Bool) (links : Nat) :
    fs.walk follow (links + 1) = fs.walkToLink follow (fs.walk follow links) := rfl

attribute [irreducible] walk

/-- Walks a path from the directory `cwd`. -/
def locate (fs : Files) (cwd : Place) (path : String) (follow : Bool) : Except SystemFault Spot :=
  if Path.hasNul path then .error .nulInPath
  else if path = "" then .error (.os .notFound)
  else if Path.maxPath < octetLength path then .error (.os .nameTooLong)
  else
    match fs.walk follow maxLinks (if Path.isAbsolute path then [] else cwd) (Path.steps path) with
    | .ok spot => .ok spot
    | .error e => .error (.os e)

end Files

end ImageGateway
