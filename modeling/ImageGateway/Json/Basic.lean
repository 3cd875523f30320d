import ImageGateway.Shape

/-!
JSON documents as trees. A tree also tells how far a text that is no JSON can be read: where the
text goes wrong stands `broken`, as the last item or member read, and nothing follows it. A string
whose characters do not form a text is `garbled`: it can be passed over but not used.
-/

namespace ImageGateway

/-- The written form of a number, its digits apart. -/
structure Json.Number where
  negative : Bool
  whole : List Char
  /-- The digits after the point; empty without a point. -/
  fraction : List Char
  /-- Whether the exponent is negative, and its digits. -/
  exponent : Option (Bool × List Char)
  deriving DecidableEq, Repr

inductive Json where
  | null
  | bool (b : Bool)
  | number (n : Json.Number)
  | string (s : String)
  | garbled
  | array (items : List Json)
  /-- Members in order; a key that is no text is none. -/
  | object (members : List (Option String × Json))
  | broken

namespace Json

def digitValue (c : Char) : Nat := c.toNat - '0'.toNat

def digitsValue (cs : List Char) : Nat := cs.foldl (fun n c => n * 10 + digitValue c) 0

/-- Appends digits to a significand as long as it stays below `2 ^ 64`; the first digit that does
not fit ends it, and that digit and those after it are only counted. -/
def extend (start : Nat) (cs : List Char) : Nat × Nat :=
  cs.foldl (fun (n, left) c =>
    if left = 0 && n * 10 + digitValue c < 1 <<< 64 then (n * 10 + digitValue c, 0)
    else (n, left + 1)) (start, 0)

/-- The largest power of ten used as one factor. -/
def maxPower : Nat := 308

def tenTo (n : Nat) : Float := Float.ofScientific 1 false n

/-- `f` times ten to `e`, by factors that each round; none if it overflows. Two full factors
bring every significand below the smallest double, so a few suffice. -/
def scaleBy : Nat → Float → Int → Option Float
  | 0, f, _ => some f
  | fuel + 1, f, e =>
    if e.natAbs ≤ maxPower then
      if 0 ≤ e then
        let g := f * tenTo e.natAbs
        if g.isInf then none else some g
      else some (f / tenTo e.natAbs)
    else if f == 0 then some f
    else if 0 ≤ e then none
    else scaleBy fuel (f / tenTo maxPower) (e + maxPower)

namespace Number

/-- The floating-point value of a significand of 64 bits and a power of ten; none when it is too
large for a double. -/
def float? (n : Number) : Option Float :=
  let (whole, beyond) := extend 0 n.whole
  let (all, spare) := extend whole n.fraction
  let shift : Int := (beyond : Int) - ((n.fraction.length - spare : Nat) : Int)
  let power := match n.exponent with
    | none => shift
    | some (negative, ds) =>
      if negative then shift - digitsValue ds else shift + digitsValue ds
  (scaleBy 4 (UInt64.ofNat all).toFloat power).map fun f => if n.negative then -f else f

/-- The integer that the number is read as: without point and exponent, within 64 bits, and not
zero with a sign. -/
def integer? (n : Number) : Option Int :=
  if n.fraction = [] && n.exponent.isNone then
    let v := digitsValue n.whole
    if n.negative then if 0 < v && v ≤ 1 <<< 63 then some (-(v : Int)) else none
    else if v < 1 <<< 64 then some v
    else none
  else none

/-- Positional from `1e-5` up to below `1e16`. -/
def layout : Decimal.Layout := ⟨some (-5, 15)⟩

/-- What a number is called where something else is wanted; none if it is out of range. -/
def found? (n : Number) : Option Found :=
  match n.integer? with
  | some i => some (.integer i)
  | none => n.float?.map fun f => .float (layout.text f)

end Number

/-- What a value is called where something else is wanted; none if it is not well-formed. -/
def found? : Json → Option Found
  | null => some .null
  | bool b => some (.boolean b)
  | number n => n.found?
  | string s => some (.text s)
  | garbled => none
  | array _ => some .sequence
  | object _ => some .map
  | broken => none

mutual

/-- No part of the value is `broken`. -/
def wellFormed : Json → Bool
  | broken => false
  | array items => itemsWellFormed items
  | object members => membersWellFormed members
  | _ => true

def itemsWellFormed : List Json → Bool
  | [] => true
  | v :: vs => wellFormed v && itemsWellFormed vs

def membersWellFormed : List (Option String × Json) → Bool
  | [] => true
  | (_, v) :: ms => wellFormed v && membersWellFormed ms

end

end Json

end ImageGateway
