import ImageGateway.Json.Basic
import ImageGateway.Text.Utf8

/-!
Reading JSON. The text is a list of characters in which `none` stands for octets that are no
UTF-8; those may only stand inside strings. `Json.read` gives the tree of the first value and, if
that value was read to its end, the text after it.
-/

namespace ImageGateway.Json

abbrev Source := List (Option Char)

def isBlank : Option Char → Bool
  | some c => c = ' ' || c = '\n' || c = '\t' || c = '\r'
  | none => false

def skipBlank (s : Source) : Source := s.dropWhile isBlank

/-- What a string holds between its quotes: characters, octets that are none, and the code units
given by number. -/
inductive Unit where
  | char (c : Char)
  | stray
  | code (n : Nat)
  deriving DecidableEq, Repr

def hexValue? (c : Char) : Option Nat :=
  if '0' ≤ c ∧ c ≤ '9' then some (c.toNat - '0'.toNat)
  else if 'a' ≤ c ∧ c ≤ 'f' then some (c.toNat - 'a'.toNat + 10)
  else if 'A' ≤ c ∧ c ≤ 'F' then some (c.toNat - 'A'.toNat + 10)
  else none

/-- The character that a short escape stands for. -/
def shortEscape? : Char → Option Char
  | '"' => some '"'
  | '\\' => some '\\'
  | '/' => some '/'
  | 'b' => some '\x08'
  | 'f' => some '\x0c'
  | 'n' => some '\n'
  | 'r' => some '\r'
  | 't' => some '\t'
  | _ => none

def fourHex? (a b c d : Char) : Option Nat := do
  let a ← hexValue? a
  let b ← hexValue? b
  let c ← hexValue? c
  let d ← hexValue? d
  return ((a * 16 + b) * 16 + c) * 16 + d

/-- Reads a string from behind its first quote, with the units so far held last first. -/
def scanString (done : List Unit) : Source → Option (List Unit × Source)
  | [] => none
  | some '"' :: s => some (done.reverse, s)
  | some '\\' :: some 'u' :: some a :: some b :: some c :: some d :: s =>
    match fourHex? a b c d with
    | some n => scanString (.code n :: done) s
    | none => none
  | some '\\' :: some e :: s =>
    match shortEscape? e with
    | some c => scanString (.char c :: done) s
    | none => none
  | some '\\' :: _ => none
  | some c :: s => if c.toNat < 0x20 then none else scanString (.char c :: done) s
  | none :: s => scanString (.stray :: done) s

def isHighSurrogate (n : Nat) : Bool := 0xD800 ≤ n && n < 0xDC00
def isLowSurrogate (n : Nat) : Bool := 0xDC00 ≤ n && n < 0xE000

/-- The characters of a string, if its units form a text: code units from the surrogate range
come in pairs. -/
def joinUnits (done : List Char) : List Unit → Option (List Char)
  | [] => some done.reverse
  | .char c :: us => joinUnits (c :: done) us
  | .stray :: _ => none
  | .code n :: us =>
    if isHighSurrogate n then
      match us with
      | .code m :: us =>
        if isLowSurrogate m then
          joinUnits (Char.ofNat (0x10000 + (n - 0xD800) * 0x400 + (m - 0xDC00)) :: done) us
        else none
      | _ => none
    else if isLowSurrogate n then none
    else joinUnits (Char.ofNat n :: done) us

/-- A string from behind its first quote: its text, if it has one, and what follows. -/
def readString (s : Source) : Option (Option String × Source) :=
  (scanString [] s).map fun (us, rest) => ((joinUnits [] us).map String.ofList, rest)

def isDigit : Option Char → Bool
  | some c => c.isDigit
  | none => false

/-- The digits at the front, and what follows. -/
def readDigits (s : Source) : List Char × Source :=
  ((s.takeWhile isDigit).filterMap id, s.dropWhile isDigit)

/-- A fraction, which is a point and at least one digit, or nothing. -/
def readFraction (s : Source) : Option (List Char × Source) :=
  match s with
  | some '.' :: r =>
    let (ds, r) := readDigits r
    if ds = [] then none else some (ds, r)
  | _ => some ([], s)

def readExponent (s : Source) : Option (Option (Bool × List Char) × Source) :=
  match s with
  | some e :: r =>
    if e = 'e' ∨ e = 'E' then
      let (negative, r) := match r with
        | some '+' :: r => (false, r)
        | some '-' :: r => (true, r)
        | _ => (false, r)
      let (ds, r) := readDigits r
      if ds = [] then none else some (some (negative, ds), r)
    else some (none, s)
  | _ => some (none, s)

/-- A number; only a lone zero may start with one. -/
def readNumber (s : Source) : Option (Number × Source) := do
  let (negative, s) := match s with
    | some '-' :: r => (true, r)
    | _ => (false, s)
  let (whole, s) := readDigits s
  guard (whole ≠ [] ∧ (whole.head? = some '0' → whole.length = 1))
  let (fraction, s) ← readFraction s
  let (exponent, s) ← readExponent s
  return (⟨negative, whole, fraction, exponent⟩, s)

/-- The rest of a word that stands for a value. -/
def readWord (word : String) (v : Json) (s : Source) : Json × Option Source :=
  if (word.toList.map some).isPrefixOf s then (v, some (s.drop word.toList.length))
  else (broken, none)

mutual

/-- A value with blanks before it. `fuel` bounds the number of nested and following values. -/
def readValue : Nat → Source → Json × Option Source
  | 0, _ => (broken, none)
  | fuel + 1, s =>
    match skipBlank s with
    | some 'n' :: r => readWord "ull" null r
    | some 't' :: r => readWord "rue" (bool true) r
    | some 'f' :: r => readWord "alse" (bool false) r
    | some '"' :: r =>
      match readString r with
      | some (some t, r) => (string t, some r)
      | some (none, r) => (garbled, some r)
      | none => (broken, none)
    | some '[' :: r =>
      match skipBlank r with
      | some ']' :: r => (array [], some r)
      | r =>
        let (items, rest) := readItems fuel [] r
        (array items, rest)
    | some '\x7b' :: r =>
      match skipBlank r with
      | some '\x7d' :: r => (object [], some r)
      | r =>
        let (members, rest) := readMembers fuel [] r
        (object members, rest)
    | r =>
      match readNumber r with
      | some (n, r) => (number n, some r)
      | none => (broken, none)

/-- The items from the next one to the closing bracket; those before are held last first. -/
def readItems : Nat → List Json → Source → List Json × Option Source
  | 0, done, _ => ((broken :: done).reverse, none)
  | fuel + 1, done, s =>
    match readValue fuel s with
    | (v, none) => ((v :: done).reverse, none)
    | (v, some r) =>
      match skipBlank r with
      | some ']' :: r => ((v :: done).reverse, some r)
      | some ',' :: r => readItems fuel (v :: done) r
      | _ => ((broken :: v :: done).reverse, none)

/-- The members from the next key to the closing brace. -/
def readMembers : Nat → List (Option String × Json) → Source →
    List (Option String × Json) × Option Source
  | 0, done, _ => (((none, broken) :: done).reverse, none)
  | fuel + 1, done, s =>
    match skipBlank s with
    | some '"' :: r =>
      match readString r with
      | none => (((none, broken) :: done).reverse, none)
      | some (key, r) =>
        match skipBlank r with
        | some ':' :: r =>
          match readValue fuel r with
          | (v, none) => (((key, v) :: done).reverse, none)
          | (v, some r) =>
            match skipBlank r with
            | some '\x7d' :: r => (((key, v) :: done).reverse, some r)
            | some ',' :: r => readMembers fuel ((key, v) :: done) r
            | _ => (((none, broken) :: (key, v) :: done).reverse, none)
        | _ => (((key, broken) :: done).reverse, none)
    | _ => (((none, broken) :: done).reverse, none)

end

/-- The first value of a text and what follows it. Every value takes a character of its own, so
the fuel does not run out. -/
def read (s : Source) : Json × Option Source := readValue (2 * s.length + 2) s

end ImageGateway.Json
