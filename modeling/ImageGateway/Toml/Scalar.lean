import ImageGateway.Toml.Basic
import ImageGateway.Json.Basic

/-!
Strings, numbers and dates of TOML. Every reader takes the characters still to be read and returns
what it read with the rest; `none` means that the text is no TOML.
-/

namespace ImageGateway.Toml

abbrev Source := List Char

def isSpace (c : Char) : Bool := c = ' ' || c = '\t'

def skipSpaces (s : Source) : Source := s.dropWhile isSpace

/-- The text behind a line end, if one comes first. -/
def newline? : Source → Option Source
  | '\n' :: s => some s
  | '\r' :: '\n' :: s => some s
  | _ => none

/-- May stand in a comment; so may everything between quotes. -/
def isPrintable (c : Char) : Bool :=
  c = '\t' || (0x20 ≤ c.toNat && c.toNat ≠ 0x7F)

/-! ## Strings -/

def hexDigit? (c : Char) : Option Nat :=
  if '0' ≤ c ∧ c ≤ '9' then some (c.toNat - '0'.toNat)
  else if 'a' ≤ c ∧ c ≤ 'f' then some (c.toNat - 'a'.toNat + 10)
  else if 'A' ≤ c ∧ c ≤ 'F' then some (c.toNat - 'A'.toNat + 10)
  else none

/-- Exactly `n` hexadecimal digits. -/
def readHex : Nat → Nat → Source → Option (Nat × Source)
  | 0, acc, s => some (acc, s)
  | n + 1, acc, c :: s => do readHex n (acc * 16 + (← hexDigit? c)) s
  | _ + 1, _, [] => none

/-- The character with a code point, if there is one. -/
def scalar? (n : Nat) : Option Char := if n.isValidChar then some (Char.ofNat n) else none

/-- What follows a backslash. -/
def readEscape : Source → Option (Char × Source)
  | 'b' :: s => some ('\x08', s)
  | 't' :: s => some ('\t', s)
  | 'n' :: s => some ('\n', s)
  | 'f' :: s => some ('\x0c', s)
  | 'r' :: s => some ('\r', s)
  | '"' :: s => some ('"', s)
  | '\\' :: s => some ('\\', s)
  | 'u' :: s => do
    let (n, s) ← readHex 4 0 s
    return (← scalar? n, s)
  | 'U' :: s => do
    let (n, s) ← readHex 8 0 s
    return (← scalar? n, s)
  | _ => none

/-- The rest after spaces and line ends, of which the first stands on the present line. -/
def joinLines? (s : Source) : Option Source :=
  (newline? (skipSpaces s)).map fun r =>
    r.dropWhile fun c => isSpace c || c = '\n' || c = '\r'

/-- How many quotes come first, and the rest. -/
def countQuotes (quote : Char) (s : Source) : Nat × Source :=
  ((s.takeWhile (· = quote)).length, s.dropWhile (· = quote))

/-- The body of a string on one line, from behind its quote. Escapes count only between double
quotes. `fuel` bounds the number of steps. -/
def readLineString (quote : Char) : Nat → List Char → Source → Option (String × Source)
  | 0, _, _ => none
  | _ + 1, _, [] => none
  | fuel + 1, done, c :: s =>
    if c = quote then some (String.ofList done.reverse, s)
    else if c = '\\' && quote = '"' then
      match readEscape s with
      | some (e, s) => readLineString quote fuel (e :: done) s
      | none => none
    else if isPrintable c then readLineString quote fuel (c :: done) s
    else none

/-- The body of a string over several lines. Up to two quotes belong to the text, also right
before the three that end it. -/
def readBlockString (quote : Char) : Nat → List Char → Source → Option (String × Source)
  | 0, _, _ => none
  | fuel + 1, done, s =>
    match s with
    | [] => none
    | c :: r =>
      if c = quote then
        let (n, r) := countQuotes quote s
        if n < 3 then readBlockString quote fuel (List.replicate n quote ++ done) r
        else if n ≤ 5 then
          some (String.ofList (done.reverse ++ List.replicate (n - 3) quote), r)
        else none
      else if c = '\\' && quote = '"' then
        match joinLines? r with
        | some r => readBlockString quote fuel done r
        | none =>
          match readEscape r with
          | some (e, r) => readBlockString quote fuel (e :: done) r
          | none => none
      else
        match newline? s with
        | some r => readBlockString quote fuel ('\n' :: done) r
        | none => if isPrintable c then readBlockString quote fuel (c :: done) r else none

/-- A string in any of its four forms. -/
def readString (s : Source) : Option (String × Source) :=
  match s with
  | '"' :: '"' :: '"' :: r => block '"' r
  | '\'' :: '\'' :: '\'' :: r => block '\'' r
  | '"' :: r => readLineString '"' (r.length + 1) [] r
  | '\'' :: r => readLineString '\'' (r.length + 1) [] r
  | _ => none
where
  /-- A line end right behind the opening quotes is no part of the text. -/
  block (quote : Char) (r : Source) : Option (String × Source) :=
    readBlockString quote (r.length + 1) [] ((newline? r).getD r)

/-! ## Numbers -/

/-- Digits of one class, with underscores between them. -/
def readGrouped (isDigit : Char → Bool) : Source → Option (List Char × Source)
  | [] => none
  | c :: s => if isDigit c then more [c] s else none
where
  more (done : List Char) : Source → Option (List Char × Source)
    | '_' :: d :: s => if isDigit d then more (d :: done) s else none
    | '_' :: [] => none
    | d :: s => if isDigit d then more (d :: done) s else some (done.reverse, d :: s)
    | [] => some (done.reverse, [])

/-- A sign, or none. -/
def readSign : Source → Option Bool × Source
  | '+' :: s => (some false, s)
  | '-' :: s => (some true, s)
  | s => (none, s)

/-- Decimal digits without a needless zero in front. -/
def readDecimal (s : Source) : Option (List Char × Source) :=
  match s with
  | '0' :: r => some (['0'], r)
  | _ => readGrouped Char.isDigit s

def signed (negative : Option Bool) (n : Nat) : Int := if negative = some true then -n else n

/-- An integer within 64 bits. -/
def integer? (n : Int) : Option Toml :=
  if -0x8000000000000000 ≤ n ∧ n < 0x8000000000000000 then some (.integer n) else none

def isDigitOf (base : Nat) (c : Char) : Bool := (hexDigit? c).any (· < base)

/-- An integer in another base, from behind its mark. -/
def readBased (base : Nat) (s : Source) : Option (Toml × Source) := do
  let (ds, r) ← readGrouped (isDigitOf base) s
  let n := ds.foldl (fun n c => n * base + (hexDigit? c).getD 0) 0
  return (← integer? n, r)

/-- Beyond this power of ten every double overflows or vanishes. -/
def maxMagnitude : Nat := 400

/-- The double nearest to `digits * 10 ^ exponent`. -/
def nearest (digits : List Char) (exponent : Int) : Float :=
  let m := Json.digitsValue digits
  let magnitude : Int := (Nat.toDigits 10 m).length + exponent
  if m = 0 then 0
  else if (maxMagnitude : Int) < magnitude then Float.ofScientific 1 false maxMagnitude
  else if magnitude < -(maxMagnitude : Int) then 0
  else if 0 ≤ exponent then Float.ofScientific m false exponent.toNat
  else Float.ofScientific m true (-exponent).toNat

/-- The exponent that may follow. -/
def readExponent (s : Source) : Option (Option Int × Source) :=
  match s with
  | e :: r =>
    if e = 'e' ∨ e = 'E' then
      let (sign, r) := readSign r
      (readGrouped Char.isDigit r).map fun (ds, r) =>
        (some (signed sign (Json.digitsValue ds)), r)
    else some (none, s)
  | [] => some (none, [])

/-- The digits after the point that may follow. -/
def readFraction (s : Source) : Option (Option (List Char) × Source) :=
  match s with
  | '.' :: r => (readGrouped Char.isDigit r).map fun (ds, r) => (some ds, r)
  | _ => some (none, s)

/-- A floating-point number: digits with a fraction, an exponent, or both. One that is too large
is refused, unless it is negative. -/
def readFloat (s : Source) : Option (Toml × Source) := do
  let (sign, r) := readSign s
  let (whole, r) ← readDecimal r
  let (fraction, r) ← readFraction r
  let (exponent, r) ← readExponent r
  if fraction.isNone && exponent.isNone then none
  else
    let ds := fraction.getD []
    let size := nearest (whole ++ ds) (exponent.getD 0 - ds.length)
    if sign = some true then return (.float (-size), r)
    else if size.isInf then none
    else return (.float size, r)

/-- Infinity or no number, with or without a sign. -/
def readSpecial (s : Source) : Option (Toml × Source) :=
  let (sign, r) := readSign s
  let give (f : Float) (r : Source) : Option (Toml × Source) :=
    some (.float (if sign = some true then -f else f), r)
  match r with
  | 'i' :: 'n' :: 'f' :: r => give (1.0 / 0.0) r
  | 'n' :: 'a' :: 'n' :: r => give (0.0 / 0.0) r
  | _ => none

def readInteger (s : Source) : Option (Toml × Source) :=
  match s with
  | '0' :: 'x' :: r => readBased 16 r
  | '0' :: 'o' :: r => readBased 8 r
  | '0' :: 'b' :: r => readBased 2 r
  | _ => do
    let (sign, r) := readSign s
    let (ds, r) ← readDecimal r
    return (← integer? (signed sign (Json.digitsValue ds)), r)

/-! ## Dates and times -/

/-- A number of exactly `n` digits. -/
def readFixed (n : Nat) (s : Source) : Option (Nat × Source) :=
  let ds := s.take n
  if ds.length = n && ds.all Char.isDigit then some (Json.digitsValue ds, s.drop n) else none

/-- The same within bounds. -/
def readBounded (n lo hi : Nat) (s : Source) : Option (Nat × Source) :=
  (readFixed n s).filter fun (v, _) => lo ≤ v && v ≤ hi

def expect (c : Char) : Source → Option Source
  | d :: s => if d = c then some s else none
  | [] => none

def daysIn (year month : Nat) : Nat :=
  if month = 2 then
    if year % 4 = 0 ∧ (year % 100 ≠ 0 ∨ year % 400 = 0) then 29 else 28
  else if month = 4 ∨ month = 6 ∨ month = 9 ∨ month = 11 then 30
  else 31

/-- A date that the calendar has. -/
def readDate (s : Source) : Option Source := do
  let (year, s) ← readFixed 4 s
  let (month, s) ← readBounded 2 1 12 (← expect '-' s)
  let (_, s) ← readBounded 2 1 (daysIn year month) (← expect '-' s)
  return s

/-- A time of day; a minute may have a sixty-first second. -/
def readTime (s : Source) : Option Source := do
  let (_, s) ← readBounded 2 0 23 s
  let (_, s) ← readBounded 2 0 59 (← expect ':' s)
  let (_, s) ← readBounded 2 0 60 (← expect ':' s)
  match s with
  | '.' :: d :: r => return if d.isDigit then r.dropWhile Char.isDigit else s
  | _ => return s

/-- The distance from universal time, if it is given. -/
def readOffset (s : Source) : Option Source :=
  match s with
  | 'Z' :: r | 'z' :: r => some r
  | '+' :: r | '-' :: r => do
    let (_, r) ← readBounded 2 0 23 r
    let (_, r) ← readBounded 2 0 59 (← expect ':' r)
    return r
  | _ => some s

/-- The time that may follow a date. What looks like the start of one and is none is left unread,
and is then an error for whoever goes on. -/
def readTimeAfterDate (s : Source) : Source :=
  match s with
  | c :: r =>
    if c = 'T' ∨ c = 't' ∨ c = ' ' then ((readTime r).bind readOffset).getD s else s
  | [] => s

def readMoment (s : Source) : Option (Toml × Source) :=
  match readDate s with
  | some r => some (.moment, readTimeAfterDate r)
  | none => (readTime s).map fun r => (.moment, r)

/-- Anything that starts with a digit or a sign. A reading that stops too early leaves something
that cannot follow a value, so the first kind that fits decides. -/
def readNumber (s : Source) : Option (Toml × Source) :=
  readMoment s <|> readFloat s <|> readSpecial s <|> readInteger s

end ImageGateway.Toml
