import ImageGateway.Http.Message

/-!
Media types with their parameters, such as `multipart/form-data; boundary=x`. Names do not differ
by case and are kept in lower case; values are kept as they are.
-/

namespace ImageGateway.Http

structure MediaType where
  type : String
  /-- The subtype up to its last plus sign. -/
  subtype : String
  /-- What stands behind the last plus sign. -/
  suffix : Option String
  parameters : List (String × String)
  deriving DecidableEq, Repr

/-- The characters that a token is made of. -/
def isTokenChar (c : Char) : Bool :=
  c.isAlphanum || "!#$%&'*+-.^_`|~".toList.contains c

namespace MediaType

private def lower (cs : List Char) : String := String.ofList (cs.map Char.toLower)

/-- A subtype and its suffix. A plus sign in front belongs to the subtype. -/
def splitSuffix : List Char → List Char × Option (List Char)
  | [] => ([], none)
  | c :: cs =>
    let back := cs.reverse
    match back.dropWhile (· ≠ '+') with
    | [] => (c :: cs, none)
    | _ :: front => (c :: front.reverse, some (back.takeWhile (· ≠ '+')).reverse)

/-- A value in quotes, behind the first of them. It has at least one character, and this one may
be a quote itself. Only blanks may follow up to the next semicolon. -/
def quoted? : List Char → Option (List Char × List Char)
  | [] => none
  | c :: cs =>
    let allowed (c : Char) : Bool := 0x1F < c.toNat && c.toNat ≠ 0x7F
    let value := cs.takeWhile fun c => c ≠ '"' && allowed c
    match cs.dropWhile fun c => c ≠ '"' && allowed c with
    | '"' :: rest =>
      match rest.dropWhile (· = ' ') with
      | [] => if allowed c then some (c :: value, []) else none
      | ';' :: rest => if allowed c then some (c :: value, rest) else none
      | _ => none
    | _ => none

/-- A value without quotes, which may be empty only at the very end. -/
def plain? (cs : List Char) : Option (List Char × List Char) :=
  let value := cs.takeWhile isTokenChar
  match cs.dropWhile isTokenChar with
  | [] => some (value, [])
  | ';' :: rest => if value = [] then none else some (value, rest)
  | _ => none

/-- One parameter, and the text behind the semicolon after it. -/
def parameter? (cs : List Char) : Option ((String × String) × List Char) :=
  let name := cs.takeWhile isTokenChar
  match cs.dropWhile isTokenChar with
  | '=' :: rest =>
    if name = [] then none
    else
      let read := match rest with
        | '"' :: inner => quoted? inner
        | _ => plain? rest
      read.map fun (value, rest) => ((lower name, String.ofList value), rest)
  | _ => none

/-- The parameters behind a semicolon; blanks may stand before each. `fuel` bounds their number. -/
def parameters? : Nat → List Char → Option (List (String × String))
  | 0, _ => none
  | fuel + 1, cs =>
    match cs.dropWhile (· = ' ') with
    | [] => some []
    | rest => do
      let (p, rest) ← parameter? rest
      let ps ← parameters? fuel rest
      return p :: ps

/-- Reads a media type. -/
def parse? (text : String) : Option MediaType :=
  let cs := text.toList
  let top := cs.takeWhile isTokenChar
  match cs.dropWhile isTokenChar with
  | '/' :: rest =>
    let sub := rest.takeWhile isTokenChar
    let (subtype, suffix) := splitSuffix sub
    let make (ps : List (String × String)) : MediaType :=
      ⟨lower top, lower subtype, suffix.map lower, ps⟩
    if top = [] then none
    else
      match rest.dropWhile isTokenChar with
      | [] => some (make [])
      | ';' :: rest => if sub = [] then none else (parameters? cs.length rest).map make
      | _ => none
  | _ => none

/-- The first parameter of a name. -/
def parameter (m : MediaType) (name : String) : Option String := m.parameters.lookup name

/-- JSON, or a format built on it. -/
def isJson (m : MediaType) : Bool :=
  m.type = "application" && (m.subtype = "json" || m.suffix = some "json")

/-- The boundary of a form, if this is the type of a form with parts. -/
def boundary? (m : MediaType) : Option String :=
  if m.type = "multipart" && m.subtype = "form-data" then m.parameter "boundary" else none

end MediaType

/-- The media type that the headers give. -/
def Headers.mediaType? (hs : Headers) : Option MediaType :=
  (hs.text? "content-type").bind MediaType.parse?

end ImageGateway.Http
