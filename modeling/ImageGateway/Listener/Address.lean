import ImageGateway.Path
import ImageGateway.SystemFault

/-!
Addresses to listen on: a host and a port with a colon between them. Strict numeric addresses are
understood at once. Anything else is looked up, which takes a moment: that way the looser numeric
forms and the name of the machine itself are found too.
-/

namespace ImageGateway

/-- A host by its number, of 32 or of 128 bits. -/
inductive Host where
  | v4 (number : Nat)
  | v6 (number : Nat)
  deriving DecidableEq, Repr

structure Address where
  host : Host
  port : Nat
  deriving DecidableEq, Repr

namespace Host

/-- The number that digits of a base spell; there has to be one. -/
def number? (base : Nat) (cs : List Char) : Option Nat :=
  let digit? (c : Char) : Option Nat :=
    let v := if c.isDigit then c.toNat - 48
      else if c.isAlpha then c.toLower.toNat - 87
      else base
    if v < base then some v else none
  if cs = [] then none
  else (cs.mapM digit?).map fun ds => ds.foldl (fun n d => n * base + d) 0

/-- One of the four numbers of an address, written without zeros in front. -/
def octet? (cs : List Char) : Option Nat := do
  let n ← number? 10 cs
  if n < 256 && (cs.length = 1 || cs.head? ≠ some '0') && cs.length ≤ 3 then some n else none

/-- Four numbers with points between them. -/
def readV4? (cs : List Char) : Option Nat := do
  let parts := Path.segments '.' cs
  if parts.length ≠ 4 then none
  else
    let os ← parts.mapM octet?
    return os.foldl (fun n o => n * 256 + o) 0

/-- Groups of sixteen bits; four numbers with points may stand for the last two. -/
def groups? : List (List Char) → Option (List Nat)
  | [] => some []
  | [cs] =>
    match readV4? cs with
    | some n => some [n / 65536, n % 65536]
    | none => do
      let n ← number? 16 cs
      if cs.length ≤ 4 then return [n] else none
  | cs :: rest => do
    let n ← number? 16 cs
    let ns ← groups? rest
    if cs.length ≤ 4 then return n :: ns else none

/-- The groups between single colons; none at all is fine. -/
def side? (cs : List Char) : Option (List Nat) :=
  if cs = [] then some [] else groups? (Path.segments ':' cs)

/-- What stands before and after the first double colon. -/
def splitGap (done : List Char) : List Char → Option (List Char × List Char)
  | ':' :: ':' :: rest => some (done.reverse, rest)
  | c :: rest => splitGap (c :: done) rest
  | [] => none

def joinGroups (gs : List Nat) : Nat := gs.foldl (fun n g => n * 65536 + g) 0

/-- Eight groups, or fewer with a double colon for the zeros among them. -/
def readV6? (cs : List Char) : Option Nat :=
  match splitGap [] cs with
  | none => do
    let gs ← side? cs
    if gs.length = 8 then return joinGroups gs else none
  | some (before, after) => do
    let bs ← side? before
    let as ← side? after
    if before.contains '.' || 7 < bs.length + as.length then none
    else return joinGroups (bs ++ List.replicate (8 - bs.length - as.length) 0 ++ as)

/-- A number in base ten, in base eight with a zero in front, or in base sixteen with `0x`. -/
def loosely? : List Char → Option Nat
  | '0' :: 'x' :: cs | '0' :: 'X' :: cs => number? 16 cs
  | '0' :: c :: cs => number? 8 (c :: cs)
  | cs => number? 10 cs

/-- Up to four numbers with points between them, the last of which fills what is left. -/
def looseV4? (cs : List Char) : Option Nat := do
  let ns ← (Path.segments '.' cs).mapM loosely?
  let front := ns.dropLast
  let last ← ns.getLast?
  let room := 1 <<< (8 * (4 - front.length))
  if 3 < front.length || front.any (255 < ·) || room ≤ last then none
  else return front.foldl (fun n o => n * 256 + o) 0 * room + last

/-- The name of the machine itself, and its number. -/
def localName : String := "localhost"

def loopback : Nat := (127 <<< 24) + 1

/-- A text that could be the name of some machine. -/
def isName (cs : List Char) : Bool :=
  let parts := Path.segments '.' cs
  let parts := if parts.getLast? = some [] then parts.dropLast else parts
  parts ≠ [] && parts.all fun part =>
    part ≠ [] && part.length ≤ 63 && part.head? ≠ some '-' &&
      part.all fun c => c.isAlphanum || c = '-' || c = '_'

/-- Looks a host up. -/
def lookUp (name : String) : Except SystemFault Host :=
  let cs := name.toList
  if Path.hasNul name then .error .nulInPath
  else
    match looseV4? cs, readV6? cs with
    | some n, _ => .ok (.v4 n)
    | none, some n => .ok (.v6 n)
    | none, none =>
      if cs.map Char.toLower = localName.toList then .ok (.v4 loopback)
      else .error (if isName cs then .unknownHost else .badHost)

/-- Stands for all hosts that the machine is. -/
def isUnspecified : Host → Bool
  | v4 n => n = 0
  | v6 n => n = 0

/-- The machine itself can be reached here. -/
def isLocal : Host → Bool
  | v4 n => n = 0 || n >>> 24 = 127
  | v6 n => n = 0 || n = 1

end Host

namespace Address

/-- The largest port. -/
def maxPort : Nat := 65535

/-- A port in digits. -/
def port? (cs : List Char) : Option Nat := do
  let n ← Host.number? 10 cs
  if n ≤ maxPort then return n else none

/-- What stands before and after the last colon. -/
def splitPort? (cs : List Char) : Option (List Char × List Char) :=
  let back := cs.reverse
  match back.dropWhile (· ≠ ':') with
  | [] => none
  | _ :: host => some (host.reverse, (back.takeWhile (· ≠ ':')).reverse)

/-- A strict numeric address; a host of 128 bits stands in brackets. -/
def literal? (text : String) : Option Address := do
  let (host, port) ← splitPort? text.toList
  let port ← port? port
  match Host.readV4? host with
  | some n => return ⟨.v4 n, port⟩
  | none =>
    match host with
    | '[' :: rest =>
      if rest.getLast? = some ']' then return ⟨.v6 (← Host.readV6? rest.dropLast), port⟩ else none
    | _ => none

/-- Finds out what an address that is no literal one means. A plus sign before the port does not
matter here. -/
def lookUp (text : String) : Except SystemFault Address :=
  match splitPort? text.toList with
  | none => .error .addressWithoutPort
  | some (host, port) =>
    let digits := match port with
      | '+' :: ds => ds
      | ds => ds
    match port? digits with
    | none => .error .badPort
    | some port => (Host.lookUp (String.ofList host)).map (⟨·, port⟩)

/-- Two addresses cannot both be listened on. Port zero stands for any port that is free. -/
def clashes (a b : Address) : Bool :=
  a.port = b.port && a.port ≠ 0 &&
    (a.host = b.host || a.host.isUnspecified || b.host.isUnspecified)

/-- Begins to listen, if nobody does so there already. -/
def bind (taken : List Address) (a : Address) : Except SystemFault (List Address) :=
  if !a.host.isLocal then .error (.os .addressNotAvailable)
  else if taken.any a.clashes then .error (.os .addressInUse)
  else .ok (a :: taken)

end Address

end ImageGateway
