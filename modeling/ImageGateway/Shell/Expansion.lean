import ImageGateway.Shell.Arithmetic
import ImageGateway.Shell.Pattern
import ImageGateway.Shell.Session

/-!
From words to fields. Parameters, the output of scripts and sums are put in first; what they bring
in without quotes is split at separators and taken for patterns of file names. How a script is run
for its output is a parameter here.
-/

namespace ImageGateway.Shell

/-- A piece of a word after expansion. -/
inductive Item where
  /-- From the script itself, without quotes. -/
  | literal (c : Char)
  | quoted (c : Char)
  /-- From an expansion without quotes. -/
  | expanded (c : Char)
  /-- There is a field here even if it is empty. -/
  | present
  /-- One field ends and the next begins. -/
  | boundary
  deriving DecidableEq, Repr

namespace Expansion

def itemsOf (quoted : Bool) (text : String) : List Item :=
  text.toList.map (if quoted then .quoted else .expanded)

/-- Items with boundaries between them. -/
def separated : List (List Item) → List Item
  | [] => []
  | [a] => a
  | a :: rest => a ++ .boundary :: separated rest

/-- The text of items when nothing is split. -/
def plainText (items : List Item) : String :=
  String.ofList (items.filterMap fun i =>
    match i with
    | .literal c | .quoted c | .expanded c => some c
    | .boundary => some ' '
    | .present => none)

/-- The same with the quoted characters told apart. -/
def markedText (items : List Item) : List Marked :=
  items.filterMap fun i =>
    match i with
    | .literal c | .expanded c => some (c, false)
    | .quoted c => some (c, true)
    | .boundary => some (' ', false)
    | .present => none

/-- The value of a parameter, if it is set. -/
def value? (s : Session) (name : String) : Option String :=
  match name with
  | "@" | "*" => if s.arguments.isEmpty then none else some (" ".intercalate s.arguments)
  | "#" => some (toString s.arguments.length)
  | "?" => some (toString s.status)
  | "$" => some "4711"
  | "-" => some (if s.endsOnFailure then "e" else "")
  | "!" => none
  | "0" => some s.name
  | _ =>
    match name.toNat? with
    | some n => if name.toList.all Char.isDigit then s.arguments[n - 1]? else s.get? name
    | none =>
      match name with
      | "PWD" => some ((s.get? "PWD").getD s.path)
      | "IFS" => some ((s.get? "IFS").getD " \t\n")
      | "LINENO" => some (toString s.line)
      | _ => s.get? name

/-- The items of a parameter's value. -/
def valueItems (s : Session) (quoted : Bool) (name : String) (value : String) : List Item :=
  if name = "@" then
    separated (s.arguments.map fun a => (if quoted then [.present] else []) ++ itemsOf quoted a)
  else if name = "*" then
    if quoted then
      let sep := match s.separators with
        | c :: _ => String.ofList [c]
        | [] => ""
      itemsOf true (sep.intercalate s.arguments)
    else separated (s.arguments.map (itemsOf false))
  else itemsOf quoted value

/-- Records why the expansion cannot be carried out. -/
def failing (s : Session) (message : String) : Session :=
  { s with fault := s.fault <|> some message }

/-- Expands the parts of a word. `run` gives the output of a script. -/
def expand (run : Session → List Char → Session × String) :
    Nat → Session → Word → Session × List Item
  | 0, s, _ => (failing s "expansion nested too deeply", [])
  | _ + 1, s, [] => (s, [])
  | fuel + 1, s, p :: w =>
    let (s, items) : Session × List Item :=
      match p with
      | .plain c => (s, [.literal c])
      | .quoted c => (s, [.quoted c])
      | .quotes =>
        -- Quotes around nothing but all arguments, of which there are none, leave no field.
        match w, s.arguments with
        | [.parameter true "@" .value _], [] => (s, [])
        | _, _ => (s, [.present])
      | .output q recounted script =>
        let (s', out) := run (if recounted then { s with line := 1 } else s) script
        ({ s' with line := s.line }, itemsOf q out)
      | .arithmetic q e =>
        match Token.quotedWordOf e with
        | .error m => (failing s m, [])
        | .ok w =>
          let (s, items) := expand run fuel s w
          let text := plainText items
          let env := ((value? s "PWD").map fun p => ("PWD", p)).toList ++ s.bindings
          match Arithmetic.parse text.toList with
          | .error m => (failing s (m.message text), [])
          | .ok e =>
            match Arithmetic.eval e env with
            | .error m => (failing s (m.message text), [])
            | .ok (n, env) => ({ s with bindings := env.filter (·.1 ≠ "PWD") }, itemsOf q (toString n))
      | .parameter q name op operand =>
        let value := value? s name
        let operandWord := if q then Token.quotedWordOf operand else Token.wordOf operand
        match op with
        | .value =>
          match value with
          | some v => (s, valueItems s q name v)
          | none =>
            if s.needsSet && name ≠ "@" && name ≠ "*" then
              (failing s s!"{name}: parameter not set", [])
            else (s, [])
        | .length => (s, itemsOf q (toString (value.getD "").length))
        | .strip front longest =>
          -- Quotes around an expansion do not quote the pattern in it.
          match Token.wordOf operand with
          | .error m => (failing s m, [])
          | .ok w =>
            let (s, items) := expand run fuel s w
            let g := Glob.ofMarked (markedText items)
            let text := (value.getD "").toList
            let left := if front then Glob.stripFront longest g text else Glob.stripEnd longest g text
            (s, itemsOf q (String.ofList left))
        | .fallback kind orEmpty =>
          let usable := match value with
            | some v => !(orEmpty && v = "")
            | none => false
          if kind = '+' then
            if usable then
              match operandWord with
              | .error m => (failing s m, [])
              | .ok w => expand run fuel s w
            else (s, [])
          else if usable then (s, valueItems s q name (value.getD ""))
          else
            match operandWord with
            | .error m => (failing s m, [])
            | .ok w =>
              let (s, items) := expand run fuel s w
              if kind = '=' then (s.set name (plainText items), items)
              else if kind = '?' then
                let given := plainText items
                let text := if given = "" then "parameter not set or null" else given
                (failing s s!"{name}: {text}", [])
              else (s, items)
    let (s, rest) := expand run fuel s w
    (s, items ++ rest)

/-- A leading tilde stands for the home directory. -/
def withHome (s : Session) (w : Word) : Word :=
  match w with
  | .plain '~' :: rest =>
    if rest = [] || rest.head? = some (.plain '/') then
      ((s.get? "HOME").getD "/root").toList.map Part.quoted ++ rest
    else w
  | _ => w

/-! ## Fields -/

/-- Fields while they are collected: those done, last first, the open one, last character first,
and whether a blank separator has just ended one. -/
structure Fields where
  done : List (List Marked) := []
  current : Option (List Marked) := none
  afterBlank : Bool := false

def Fields.push (f : Fields) (m : Marked) : Fields :=
  { f with current := some (m :: f.current.getD []), afterBlank := false }

def Fields.finish (f : Fields) (blank : Bool) : Fields :=
  match f.current with
  | some c => { done := c.reverse :: f.done, current := none, afterBlank := blank }
  | none => f

def isBlankSeparator (c : Char) : Bool := c = ' ' || c = '\t' || c = '\n'

/-- Splits items at the separators that expansions brought in. -/
def split (separators : List Char) (items : List Item) : List (List Marked) :=
  let f := items.foldl (fun (f : Fields) i =>
    match i with
    | .literal c => f.push (c, false)
    | .quoted c => f.push (c, true)
    | .present => { f with current := some (f.current.getD []), afterBlank := false }
    | .boundary => f.finish false
    | .expanded c =>
      if !separators.contains c then f.push (c, false)
      else if isBlankSeparator c then f.finish true
      else
        match f.current with
        | some _ => f.finish false
        | none =>
          if f.afterBlank then { f with afterBlank := false } else { f with done := [] :: f.done }) {}
  (f.finish false).done.reverse

/-- The names of a directory that fit, in order. -/
def namesIn (files : Files) (dir : Place) (g : List Glob) : List String :=
  let hidden := match g with
    | .char '.' :: _ => true
    | _ => false
  ((files.children dir).filter fun n =>
    Glob.fits g (ofText n).toList && (hidden || (n.toList.head? ≠ some '.'))).mergeSort

/-- Splits a pattern of a path at its slashes. -/
def pathParts (g : List Marked) : List (List Marked) :=
  g.foldr (fun m parts =>
    if m.1 = '/' then [] :: parts
    else match parts with
      | [] => [[m]]
      | p :: ps => (m :: p) :: ps) [[]]

/-- The paths that a pattern names, part by part, each as written so far. -/
def paths (files : Files) (cwd : Place) : List (List Marked) → String → List String
  | [], sofar => [sofar]
  | part :: rest, sofar =>
    let glue (name : String) : String := if rest.isEmpty then sofar ++ name else sofar ++ name ++ "/"
    let g := Glob.ofMarked part
    if Glob.isProper g then
      let dir := if sofar = "" then "." else toText sofar
      match files.locate cwd dir true with
      | .ok ⟨p, some .dir⟩ =>
        (namesIn files p g).flatMap fun n => paths files cwd rest (glue (ofText n))
      | _ => []
    else paths files cwd rest (glue (String.ofList (part.map (·.1))))

/-- A field as file names, if it is a pattern that some fit, else as it stands. -/
def glob (s : Session) (field : List Marked) : List String :=
  let itself := String.ofList (field.map (·.1))
  if Glob.isProper (Glob.ofMarked field) then
    let found := (paths s.files s.cwd (pathParts field) "").filter fun p =>
      match s.files.locate s.cwd (toText p) false with
      | .ok ⟨_, some _⟩ => true
      | _ => false
    if found.isEmpty then [itself] else found
  else [itself]

end Expansion

end ImageGateway.Shell
