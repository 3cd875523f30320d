import ImageGateway.Files.Basic
import ImageGateway.Text.Utf8

/-!
HTTP requests and responses, without the connection they travel on.
-/

namespace ImageGateway.Http

/-- Header fields in the order they came. -/
abbrev Headers := List (String × Bytes)

structure Request where
  method : String
  /-- The request target as it was sent. -/
  target : String
  headers : Headers
  body : Bytes

structure Response where
  status : Nat
  headers : List (String × String)
  body : Bytes
  deriving DecidableEq, Repr

/-- Header names do not differ by case. -/
def sameHeader (a b : String) : Bool :=
  a.toList.map Char.toLower = b.toList.map Char.toLower

/-- The first header of a name. -/
def Headers.get? (hs : Headers) (name : String) : Option Bytes :=
  (hs.find? fun h => sameHeader h.1 name).map (·.2)

/-- The first header of a name as text; one that has anything in it but visible ASCII, spaces and
tabs has none. -/
def Headers.text? (hs : Headers) (name : String) : Option String := do
  let value ← hs.get? name
  if value.all fun b => (0x20 ≤ b && b < 0x7F) || b == 0x09 then some (Text.Utf8.lossy value)
  else none

/-- What may be sent as the value of a header: everything but control characters, except that a
tab may. -/
def isHeaderValue (text : String) : Bool :=
  text.toList.all fun c => (0x20 ≤ c.toNat && c.toNat ≠ 0x7F) || c == '\t'

/-- The path in a request target. A full address has its path behind the authority, and the root
if there is none; an authority alone has no path. -/
def Request.path (r : Request) : String :=
  let ends (c : Char) : Bool := c == '?' || c == '#'
  let cs := r.target.toList.takeWhile fun c => !ends c
  match cs with
  | '/' :: _ => String.ofList cs
  | ['*'] => "*"
  | _ =>
    match cs.dropWhile (· ≠ ':') with
    | ':' :: '/' :: '/' :: rest =>
      match rest.dropWhile (· ≠ '/') with
      | [] => "/"
      | path => String.ofList path
    | _ => ""

namespace Response

def header? (r : Response) (name : String) : Option String :=
  (r.headers.find? fun h => sameHeader h.1 name).map (·.2)

/-- A status with nothing else. -/
def empty (status : Nat) : Response := ⟨status, [], []⟩

/-- A body with its media type. -/
def typed (status : Nat) (mediaType : String) (body : Bytes) : Response :=
  ⟨status, [("content-type", mediaType)], body⟩

def plain (status : Nat) (text : String) : Response :=
  typed status "text/plain; charset=utf-8" (Text.Utf8.encode text)

end Response

end ImageGateway.Http
