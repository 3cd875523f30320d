import ImageGateway.Json.Reader

/-!
Taking values out of JSON trees. The first problem in the order of the text is the answer: either
the text is no JSON at that point, or a value has not the wanted shape, and then the error says
where in the document that happened.
-/

namespace ImageGateway.Json

/-- One step down into a document. -/
inductive Step where
  | index (n : Nat)
  | key (k : String)
  deriving DecidableEq, Repr

def pathText (path : List Step) : String :=
  path.foldl (fun text step =>
    match step with
    | .index n => text ++ s!"[{n}]"
    | .key k => if text = "" then k else text ++ "." ++ k) ""

inductive Error where
  | notJson
  | mismatch (path : List Step) (m : Mismatch)
  deriving DecidableEq, Repr

/-- The error as seen from one step further out. -/
def Error.at (step : Step) : Error → Error
  | .notJson => .notJson
  | .mismatch path m => .mismatch (step :: path) m

/-- The mismatch with its place in front, if it is not the whole document. -/
def Error.located (path : List Step) (m : Mismatch) : String :=
  if path = [] then m.message else pathText path ++ ": " ++ m.message

abbrev Decoder (α : Type) := Json → Except Error α

def wrongType (wanted : String) (v : Json) : Except Error α :=
  match v.found? with
  | some f => .error (.mismatch [] (.wrongType f wanted))
  | none => .error .notJson

def asText : Decoder String
  | string s => .ok s
  | v => wrongType "a string" v

def asNothing : Decoder PUnit
  | null => .ok ⟨⟩
  | v => wrongType "unit" v

/-- Null is the absence of a value. -/
def asOptional (f : Decoder α) : Decoder (Option α)
  | null => .ok none
  | v => (f v).map some

/-- Decodes items in order, from the one with the given index on. -/
def decodeItems (f : Decoder α) (n : Nat) : List Json → Except Error (List α)
  | [] => .ok []
  | v :: vs => do
    let a ← (f v).mapError (Error.at (.index n))
    let as ← decodeItems f (n + 1) vs
    return a :: as

def asList (f : Decoder α) : Decoder (List α)
  | array items => decodeItems f 0 items
  | v => wrongType "a sequence" v

/-- One of several names, each a constant; also written as an object that has the name as its only
key, with null behind it. -/
def asVariant (known : List String) (pick : String → Option α) : Decoder α
  | string s => named s
  | object ((some s, v) :: rest) => do
    let a ← named s
    let _ ← (asNothing v).mapError (Error.at (.key s))
    if rest.isEmpty then return a else throw .notJson
  | _ => .error .notJson
where
  named (s : String) : Except Error α :=
    match pick s with
    | some a => .ok a
    | none => .error (.mismatch [] (.unknownVariant s known))

/-- A value that is not used has to be well-formed all the same. -/
def skip : Decoder PUnit := fun v => if v.wellFormed then .ok ⟨⟩ else .error .notJson

/-- Fills a field that may occur once. -/
def fill (name : String) (f : Decoder α) (old : Option α) (v : Json) : Except Error (Option α) :=
  match old with
  | some _ => .error (.mismatch [] (.duplicateField name))
  | none => ((f v).mapError (Error.at (.key name))).map some

/-- A field that has to be there. -/
def need (name : String) : Option α → Except Error α
  | some a => .ok a
  | none => .error (.mismatch [] (.missingField name))

/-- The item at an index of a list that stands for a structure. -/
def item (f : Decoder α) (n : Nat) (items : List Json) : Option (Except Error α) :=
  items[n]?.map fun v => (f v).mapError (Error.at (.index n))

/-- How a text that was to hold one document departs from it. With `alone`, only blanks may follow
the document. -/
def decodeText (alone : Bool) (f : Decoder α) (s : Source) : Except Error α := do
  let (v, rest) := read s
  let a ← f v
  match rest with
  | none => throw .notJson
  | some r => if alone && skipBlank r ≠ [] then throw .notJson else return a

end ImageGateway.Json
