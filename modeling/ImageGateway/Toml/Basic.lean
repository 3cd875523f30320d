import ImageGateway.Shape

/-!
TOML documents as trees. Tables remember how they came to be, since that decides who may still add
to them: a table with a header of its own is complete for dotted keys, a table between braces for
everyone. `insertAt` is the one operation that adds entries; headers and dotted keys both use it.
-/

namespace ImageGateway

/-- How a table came to be. -/
inductive Toml.Origin where
  /-- By its own header, or as the document itself. -/
  | header
  /-- As a place on the way of a header. -/
  | implied
  /-- As a place on the way of a dotted key. -/
  | dotted
  /-- Between braces. -/
  | inline
  deriving DecidableEq, Repr

inductive Toml where
  | string (s : String)
  | integer (n : Int)
  | float (f : Float)
  | boolean (b : Bool)
  /-- A date, a time, or both. -/
  | moment
  | array (items : List Toml)
  | table (origin : Toml.Origin) (entries : List (String × Toml))
  /-- Tables under one doubly bracketed header, in order. -/
  | tables (items : List (List (String × Toml)))

namespace Toml

/-- The entries of a table in the order of their first mention. -/
abbrev Entries := List (String × Toml)

/-- Replaces the value of a key that is there. -/
def Entries.replace (es : Entries) (key : String) (v : Toml) : Entries :=
  es.map fun e => if e.1 = key then (key, v) else e

/-- A list with its last item changed; none if there is no last item. -/
def changeLast? (f : α → Option α) (items : List α) : Option (List α) :=
  match items.reverse with
  | [] => none
  | a :: before => (f a).map fun a => (a :: before).reverse

/-- Walks down a path of keys and changes the entries of the table at its end, which `act` is told
the origin of. Missing tables on the way are made: for a dotted key as `dotted`, for a header as
`implied`. A dotted key may not pass through a table that has a header, and nothing passes through
a value. -/
def insertAt (viaDots : Bool) (act : Origin → Entries → Option Entries) :
    List String → Origin → Entries → Option Entries
  | [], origin, es => act origin es
  | key :: path, _, es =>
    match es.lookup key with
    | none => do
      let origin := if viaDots then Origin.dotted else .implied
      return es ++ [(key, .table origin (← insertAt viaDots act path origin []))]
    | some (.table .inline _) => none
    | some (.table origin sub) =>
      if viaDots && origin = .header then none
      else do
        return es.replace key (.table origin (← insertAt viaDots act path origin sub))
    | some (.tables items) => do
      return es.replace key (.tables (← changeLast? (insertAt viaDots act path .header) items))
    | some _ => none

/-- Adds an entry under a key that is still free. -/
def addNew (key : String) (v : Toml) (es : Entries) : Option Entries :=
  if (es.lookup key).isSome then none else some (es ++ [(key, v)])

/-- Sets `path.key = v`. The table at the end of a path of dots has to be one made by dots. -/
def setKey (origin : Origin) (es : Entries) (path : List String) (key : String) (v : Toml) :
    Option Entries :=
  insertAt true
    (fun o es => if path ≠ [] && o ≠ .dotted then none else addNew key v es) path origin es

/-- Puts a finished table at the place of its header. -/
def setTable (root : Entries) (path : List String) (key : String) (es : Entries) :
    Option Entries :=
  insertAt false (fun _ => addNew key (.table .header es)) path .header root

/-- Appends a finished table to those under a doubly bracketed header. -/
def pushTable (root : Entries) (path : List String) (key : String) (es : Entries) :
    Option Entries :=
  insertAt false (fun _ siblings =>
    match siblings.lookup key with
    | none => some (siblings ++ [(key, .tables [es])])
    | some (.tables items) => some (siblings.replace key (.tables (items ++ [es])))
    | some _ => none) path .header root

/-- Takes out what a header may reopen: a table that was only implied so far. The rest of the
document and its entries are returned; anything else at that place is an error. -/
def reopen (root : Entries) (path : List String) (key : String) : Option (Entries × Entries) := do
  let there (es : Entries) : Entries :=
    match es.lookup key with
    | some (.table .implied sub) => sub
    | _ => []
  let allowed (es : Entries) : Bool :=
    match es.lookup key with
    | none | some (.table .implied _) => true
    | some _ => false
  let root' ← insertAt false (fun _ es =>
    if allowed es then some (es.filter (·.1 ≠ key)) else none) path .header root
  return (root', there (entriesAt path root))
where
  /-- The entries of the table at the end of a path; empty if there is none. -/
  entriesAt : List String → Entries → Entries
    | [], es => es
    | k :: path, es =>
      match es.lookup k with
      | some (.table _ sub) => entriesAt path sub
      | some (.tables items) => entriesAt path (items.getLastD [])
      | _ => []

/-- Positional throughout. -/
def layout : Decimal.Layout := ⟨none⟩

/-- What a value is called where something else is wanted. -/
def found : Toml → Found
  | string s => .text s
  | integer n => .integer n
  | float f => .float (layout.text f)
  | boolean b => .boolean b
  | moment | table _ _ => .map
  | array _ | tables _ => .sequence

end Toml

end ImageGateway
