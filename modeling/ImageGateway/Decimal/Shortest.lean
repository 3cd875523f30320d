/-!
The shortest decimal of a double: of all decimals that read back as the same double, one with the
fewest digits, and of those the nearest. A double is taken apart into `m * 2 ^ q`; the decimals
that read back are those of an interval around it, and the grids of one, two, … seventeen digits
are tried in turn in exact arithmetic.
-/

namespace ImageGateway.Decimal

/-- A positive double as `mantissa * 2 ^ exponent`, with the flag that the gap below it is half
the gap above. -/
structure Binary where
  mantissa : Nat
  exponent : Int
  narrowBelow : Bool

/-- The parts of a positive finite double, from its bits without the sign. -/
def Binary.ofBits (bits : Nat) : Binary :=
  let e : Nat := (bits >>> 52) % 2048
  let f : Nat := bits % (1 <<< 52)
  if e = 0 then ⟨f, -1074, false⟩
  else ⟨(1 <<< 52) + f, (e : Int) - 1075, f = 0 && e ≠ 1⟩

/-- A decimal `digits * 10 ^ exponent`. -/
structure Scientific where
  digits : Nat
  exponent : Int

/-- Moves up to `fuel` zeros at the end of the digits into the exponent. -/
def Scientific.strip (d : Scientific) : Nat → Scientific
  | 0 => d
  | fuel + 1 =>
    if d.digits % 10 = 0 then strip ⟨d.digits / 10, d.exponent + 1⟩ fuel else d

/-- A rational number with positive denominator. -/
structure Ratio where
  num : Nat
  den : Nat

def Ratio.ofScaled (m : Nat) (base : Nat) (e : Int) : Ratio :=
  if 0 ≤ e then ⟨m * base.pow e.toNat, 1⟩ else ⟨m, base.pow (-e).toNat⟩

def Ratio.le (a b : Ratio) : Bool := a.num * b.den ≤ b.num * a.den
def Ratio.lt (a b : Ratio) : Bool := a.num * b.den < b.num * a.den

/-- The value in units of `10 ^ e`, rounded down. -/
def Ratio.floorAt (a : Ratio) (e : Int) : Nat :=
  if 0 ≤ e then a.num / (a.den * Nat.pow 10 e.toNat) else a.num * Nat.pow 10 (-e).toNat / a.den

/-- The largest `e` with `10 ^ e ≤ a`, found downwards from `start`. -/
def Ratio.magnitude (a : Ratio) : Nat → Int → Int
  | 0, e => e
  | fuel + 1, e => if (Ratio.ofScaled 1 10 e).le a then e else magnitude a fuel (e - 1)

/-- Does a decimal read back as the double? Both ends of the interval belong to it exactly if the
mantissa is even. -/
def Binary.reads (b : Binary) (d : Scientific) : Bool :=
  let x := Ratio.ofScaled d.digits 10 d.exponent
  let low := if b.narrowBelow then Ratio.ofScaled (4 * b.mantissa - 1) 2 (b.exponent - 2)
    else Ratio.ofScaled (2 * b.mantissa - 1) 2 (b.exponent - 1)
  let high := Ratio.ofScaled (2 * b.mantissa + 1) 2 (b.exponent - 1)
  if b.mantissa % 2 = 0 then low.le x && x.le high else low.lt x && x.lt high

/-- Twice the value lies below the sum of two neighbours on a grid. -/
def nearerBelow (v : Ratio) (n : Nat) (e : Int) : Bool :=
  let mid := Ratio.ofScaled (2 * n + 1) 10 e
  let twice : Ratio := ⟨2 * v.num, v.den⟩
  twice.lt mid || (!mid.lt twice && n % 2 = 0)

/-- Tries the grids of `17 - fuel` and more digits. -/
def Binary.search (b : Binary) (v : Ratio) (top : Int) : Nat → Scientific
  | 0 => ⟨v.floorAt (top - 16), top - 16⟩
  | fuel + 1 =>
    let e := top - (16 - fuel : Nat)
    let n := v.floorAt e
    let below := b.reads ⟨n, e⟩
    let above := b.reads ⟨n + 1, e⟩
    if below && above then if nearerBelow v n e then ⟨n, e⟩ else ⟨n + 1, e⟩
    else if below then ⟨n, e⟩
    else if above then ⟨n + 1, e⟩
    else search b v top fuel

/-- The shortest decimal of a positive finite double, given by its bits. -/
def shortest (bits : Nat) : Scientific :=
  let b := Binary.ofBits bits
  let v := Ratio.ofScaled b.mantissa 2 b.exponent
  (b.search v (v.magnitude 700 309) 17).strip 17

/-- How a decimal is laid out: positionally while the exponent of its first digit lies in the
range, if there is one, and otherwise with an exponent that shows its sign. -/
structure Layout where
  positional : Option (Int × Int)

private def zeros (n : Nat) : String := String.ofList (List.replicate n '0')

/-- Digits with a point in place; a whole number gets `.0`. -/
def positionalText (d : Scientific) : String :=
  let ds := (toString d.digits).toList
  if 0 ≤ d.exponent then toString d.digits ++ zeros d.exponent.toNat ++ ".0"
  else
    let places := (-d.exponent).toNat
    if places < ds.length then
      String.ofList (ds.take (ds.length - places)) ++ "." ++
        String.ofList (ds.drop (ds.length - places))
    else "0." ++ zeros (places - ds.length) ++ toString d.digits

def exponentText (d : Scientific) : String :=
  let ds := (toString d.digits).toList
  let first := d.exponent + (ds.length - 1 : Nat)
  let head := String.ofList (ds.take 1) ++
    (if ds.length = 1 then "" else "." ++ String.ofList (ds.drop 1))
  head ++ "e" ++ (if first < 0 then "-" else "+") ++ toString first.natAbs

def Layout.scientificText (l : Layout) (d : Scientific) : String :=
  let first := d.exponent + ((toString d.digits).length - 1 : Nat)
  match l.positional with
  | none => positionalText d
  | some (low, high) =>
    if low ≤ first && first ≤ high then positionalText d else exponentText d

/-- The text of a double: not a number, infinite, zero or the shortest decimal. -/
def Layout.text (l : Layout) (x : Float) : String :=
  let bits := x.toBits.toNat
  let sign := if 1 <<< 63 ≤ bits then "-" else ""
  let rest := bits % (1 <<< 63)
  if rest >>> 52 = 2047 then if rest % (1 <<< 52) = 0 then sign ++ "inf" else "NaN"
  else if rest = 0 then sign ++ "0.0"
  else sign ++ l.scientificText (shortest rest)

end ImageGateway.Decimal
