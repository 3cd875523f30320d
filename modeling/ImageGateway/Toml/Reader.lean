import ImageGateway.Toml.Scalar

/-!
Reading TOML. `read?` gives the entries of a whole document, or nothing when the text is no TOML:
when its form is wrong, when a key or a table is defined twice, or when it is nested too deeply.
-/

namespace ImageGateway.Toml

/-- Arrays and braces may be nested, and keys may have parts, below this number. -/
def maxDepth : Nat := 80

def isBare (c : Char) : Bool := c.isAlphanum || c = '-' || c = '_'

/-- One part of a key: bare, or quoted on one line. -/
def readKeyPart (s : Source) : Option (String × Source) :=
  match s with
  | '"' :: r => readLineString '"' (r.length + 1) [] r
  | '\'' :: r => readLineString '\'' (r.length + 1) [] r
  | _ =>
    let name := s.takeWhile isBare
    if name = [] then none else some (String.ofList name, s.dropWhile isBare)

/-- The parts of a key between dots, with spaces around them. `fuel` bounds their number. -/
def readKeyParts : Nat → Source → Option (List String × Source)
  | 0, _ => none
  | fuel + 1, s => do
    let (part, s) ← readKeyPart (skipSpaces s)
    match skipSpaces s with
    | '.' :: s =>
      let (parts, s) ← readKeyParts fuel s
      return (part :: parts, s)
    | s => return ([part], s)

/-- A key as the path to its last part, and that part. -/
structure Key where
  path : List String
  last : String

/-- No key has the maximal depth. -/
def readKey (s : Source) : Option (Key × Source) := do
  let (parts, s) ← readKeyParts (maxDepth - 1) s
  match parts.reverse with
  | last :: before => return (⟨before.reverse, last⟩, s)
  | [] => none

/-- A comment without the line end behind it. -/
def skipComment : Source → Source
  | '#' :: s => s.dropWhile isPrintable
  | s => s

/-- Spaces, line ends and comments between the items of an array. -/
def skipBetween : Nat → Source → Source
  | 0, s => s
  | fuel + 1, s =>
    match skipSpaces s with
    | '#' :: r => skipBetween fuel (skipComment ('#' :: r))
    | r =>
      match newline? r with
      | some r => skipBetween fuel r
      | none => r

def skipFiller (s : Source) : Source := skipBetween (s.length + 1) s

/-- The items of an array from behind its bracket or behind a comma, up to its end. -/
def readItems (item : Source → Option (Toml × Source)) :
    Nat → List Toml → Source → Option (List Toml × Source)
  | 0, _, _ => none
  | fuel + 1, done, s =>
    match skipFiller s with
    | ']' :: s => some (done.reverse, s)
    | s => do
      let (v, s) ← item s
      match skipFiller s with
      | ',' :: s => readItems item fuel (v :: done) s
      | ']' :: s => return ((v :: done).reverse, s)
      | _ => none

/-- `key = value` up to the end of the value. -/
def readPair (item : Source → Option (Toml × Source)) (s : Source) :
    Option (Key × Toml × Source) := do
  let (key, s) ← readKey s
  let s ← expect '=' s
  let (v, s) ← item (skipSpaces s)
  return (key, v, s)

/-- The entries between braces, at least one, up to the closing brace. -/
def readPairs (item : Source → Option (Toml × Source)) :
    Nat → Entries → Source → Option (Entries × Source)
  | 0, _, _ => none
  | fuel + 1, es, s => do
    let (key, v, s) ← readPair item s
    let es ← setKey .inline es key.path key.last v
    match skipSpaces s with
    | ',' :: s => readPairs item fuel es s
    | '\x7d' :: s => return (es, s)
    | _ => none

/-- A value that may be nested to a depth below the given one. -/
def readValue : Nat → Source → Option (Toml × Source)
  | depth, s =>
    match s with
    | [] => none
    | '"' :: _ | '\'' :: _ => (readString s).map fun (t, r) => (.string t, r)
    | '[' :: r =>
      match depth with
      | 0 => none
      | depth + 1 => (readItems (readValue depth) s.length [] r).map fun (vs, r) => (.array vs, r)
    | '\x7b' :: r =>
      match depth with
      | 0 => none
      | depth + 1 =>
        match skipSpaces r with
        | '\x7d' :: r => some (.table .inline [], r)
        | r => (readPairs (readValue depth) s.length [] r).map fun (es, r) =>
            (.table .inline es, r)
    | 't' :: 'r' :: 'u' :: 'e' :: r => some (.boolean true, r)
    | 'f' :: 'a' :: 'l' :: 's' :: 'e' :: r => some (.boolean false, r)
    | 'i' :: _ | 'n' :: _ => readSpecial s
    | c :: _ => if c.isDigit || c = '+' || c = '-' then readNumber s else none

/-- The text behind the end of a line on which only spaces and a comment are left. -/
def endLine? (s : Source) : Option Source :=
  match skipComment (skipSpaces s) with
  | [] => some []
  | s => newline? s

/-- Where key-value lines go: the document without the table that is open, the header of that
table, and its entries so far. -/
structure Draft where
  root : Entries := []
  /-- The key of the header and whether it is doubly bracketed; none before the first header. -/
  header : Option (Key × Bool) := none
  current : Entries := []

namespace Draft

/-- The document with the open table put at its place. -/
def close (d : Draft) : Option Entries :=
  match d.header with
  | none => some d.current
  | some (key, true) => pushTable d.root key.path key.last d.current
  | some (key, false) => setTable d.root key.path key.last d.current

/-- Opens the table of a single-bracketed header. -/
def openTable (d : Draft) (key : Key) : Option Draft := do
  let (root, there) ← reopen (← d.close) key.path key.last
  return ⟨root, some (key, false), there⟩

/-- Opens a new table under a doubly bracketed header. -/
def openItem (d : Draft) (key : Key) : Option Draft := do
  let root ← insertAt false (fun _ es =>
    match es.lookup key.last with
    | none | some (.tables _) => some es
    | some _ => none) key.path .header (← d.close)
  return ⟨root, some (key, true), []⟩

def set (d : Draft) (key : Key) (v : Toml) : Option Draft := do
  return { d with current := ← setKey .header d.current key.path key.last v }

end Draft

/-- Reads one line, which is not empty. -/
def readLine (d : Draft) (s : Source) : Option (Draft × Source) :=
  match s with
  | '#' :: _ => (endLine? s).map fun r => (d, r)
  | '[' :: '[' :: r => do
    let (key, r) ← readKey r
    let r ← expect ']' (← expect ']' r)
    return (← d.openItem key, ← endLine? r)
  | '[' :: r => do
    let (key, r) ← readKey r
    let r ← expect ']' r
    return (← d.openTable key, ← endLine? r)
  | _ =>
    match newline? s with
    | some r => some (d, r)
    | none => do
      let (key, v, r) ← readPair (readValue (maxDepth - 1)) s
      return (← d.set key v, ← endLine? r)

/-- Reads line after line; each takes at least one character. -/
def readLines : Nat → Draft → Source → Option Draft
  | 0, _, _ => none
  | fuel + 1, d, s =>
    match skipSpaces s with
    | [] => some d
    | s => do
      let (d, s) ← readLine d s
      readLines fuel d s

/-- The entries of a document; a byte order mark in front of it is passed over. -/
def read? (s : Source) : Option Entries := do
  let s := match s with
    | '\uFEFF' :: r => r
    | _ => s
  let d ← readLines (s.length + 1) {} s
  d.close

end ImageGateway.Toml
