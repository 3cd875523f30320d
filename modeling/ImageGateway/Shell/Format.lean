import ImageGateway.Shell.Arithmetic

/-!
Backslash escapes and `printf`. Numbers are integers of 64 bits; a format is used again as long as
arguments are left.
-/

namespace ImageGateway.Shell.Format

def octalDigit? (c : Char) : Option Nat :=
  if '0' ≤ c ∧ c ≤ '7' then some (c.toNat - '0'.toNat) else none

/-- Up to `n` octal digits. -/
def octal : Nat → Nat → List Char → Nat × List Char
  | 0, acc, s => (acc, s)
  | _ + 1, acc, [] => (acc, [])
  | n + 1, acc, c :: s =>
    match octalDigit? c with
    | some d => octal n (acc * 8 + d) s
    | none => (acc, c :: s)

/-- The octet with a number. -/
def octetChar (n : Nat) : Char := Char.ofNat (n % 256)

def shortEscape? : Char → Option Char
  | 'a' => some '\x07'
  | 'b' => some '\x08'
  | 'f' => some '\x0c'
  | 'n' => some '\n'
  | 'r' => some '\r'
  | 't' => some '\t'
  | 'v' => some '\x0b'
  | '\\' => some '\\'
  | _ => none

/-- Text with its escapes carried out; `\c` ends it, and then the flag is set. Octal numbers have up
to three digits, not counting a zero in front. -/
def unescape : Nat → List Char → List Char → List Char × Bool
  | 0, done, _ => (done.reverse, false)
  | _ + 1, done, [] => (done.reverse, false)
  | fuel + 1, done, '\\' :: e :: s =>
    match shortEscape? e with
    | some c => unescape fuel (c :: done) s
    | none =>
      if e = 'c' then (done.reverse, true)
      else if e = '0' then
        let (n, s) := octal 3 0 s
        unescape fuel (octetChar n :: done) s
      else if (octalDigit? e).isSome then
        let (n, s) := octal 3 0 (e :: s)
        unescape fuel (octetChar n :: done) s
      else unescape fuel (e :: '\\' :: done) s
  | fuel + 1, done, c :: s => unescape fuel (c :: done) s

/-- What `echo` writes. -/
def echo (arguments : List String) : String :=
  let (bare, words) := match arguments with
    | "-n" :: rest => (true, rest)
    | _ => (false, arguments)
  let text := (" ".intercalate words).toList
  let (out, stopped) := unescape (text.length + 1) [] text
  String.ofList (if bare || stopped then out else out ++ ['\n'])

/-! ## Conversions -/

structure Spec where
  left : Bool := false
  zeros : Bool := false
  plus : Bool := false
  space : Bool := false
  alternate : Bool := false
  width : Nat := 0
  precision : Option Nat := none

def Spec.pad (p : Spec) (text : List Char) : List Char :=
  let gap := List.replicate (p.width - text.length) ' '
  if p.left then text ++ gap else gap ++ text

/-- A number with its sign; zeros go between the sign and the digits. -/
def Spec.padNumber (p : Spec) (sign digits : List Char) : List Char :=
  let digits := match p.precision with
    | some 0 => if digits = ['0'] then [] else digits
    | some n => List.replicate (n - digits.length) '0' ++ digits
    | none => digits
  if p.zeros && !p.left && p.precision.isNone then
    sign ++ List.replicate (p.width - sign.length - digits.length) '0' ++ digits
  else p.pad (sign ++ digits)

/-- The state of a `printf`: what it wrote, last character first, the arguments left, whether it
used one, and what it complained about. -/
structure State where
  out : List Char := []
  arguments : List String
  used : Bool := false
  complaints : List String := []
  stopped : Bool := false
  /-- The format itself is wrong. -/
  malformed : Bool := false

def State.next (st : State) : Option String × State :=
  match st.arguments with
  | [] => (none, { st with used := true })
  | a :: rest => (some a, { st with arguments := rest, used := true })

def State.put (st : State) (cs : List Char) : State := { st with out := cs.reverse ++ st.out }

/-- The number that an argument spells; what does not fit is complained about. The numbers that fit
lie between `least` and `greatest`, and `below` stands for those that are too small. -/
def State.number (least greatest below : Int) (st : State) : Int × State :=
  match st.next with
  | (none, st) => (0, st)
  | (some a, st) =>
    let complain (m : String) : State := { st with complaints := st.complaints ++ [a ++ ": " ++ m] }
    match a.toList with
    | [] => (0, st)
    | '\'' :: r | '"' :: r => ((r.head?.map Char.toNat).getD 0, st)
    | cs =>
      let (negative, body) := match cs.dropWhile Arithmetic.isSpace with
        | '-' :: r => (true, r)
        | '+' :: r => (false, r)
        | r => (false, r)
      match Arithmetic.numberAt? body with
      | none => (0, complain "expected numeric value")
      | some (n, rest) =>
        let v : Int := if negative then -n else n
        let kept := if v < least then below else min greatest v
        if !rest.isEmpty then (kept, complain "not completely converted")
        else if kept = v then (v, st)
        else (kept, complain "Numerical result out of range")

def State.signed (st : State) : Int × State :=
  st.number (-Arithmetic.largest - 1) Arithmetic.largest (-Arithmetic.largest - 1)

def State.unsigned (st : State) : Int × State := st.number (-0xFFFFFFFFFFFFFFFF) 0xFFFFFFFFFFFFFFFF 0xFFFFFFFFFFFFFFFF

def digitsIn (base n : Nat) : List Char := Nat.toDigits base n

/-- The number after a flag or a point, or an argument if an asterisk stands there. -/
def readCount (st : State) (s : List Char) : Int × State × List Char :=
  match s with
  | '*' :: r =>
    let (n, st) := st.signed
    (n.bmod 0x100000000, st, r)
  | _ =>
    ((((Arithmetic.valueIn 10 (s.takeWhile Char.isDigit)).getD 0 : Nat) : Int), st,
      s.dropWhile Char.isDigit)

def readFlags : Nat → Spec → List Char → Spec × List Char
  | 0, p, s => (p, s)
  | fuel + 1, p, s =>
    match s with
    | '-' :: r => readFlags fuel { p with left := true } r
    | '0' :: r => readFlags fuel { p with zeros := true } r
    | '+' :: r => readFlags fuel { p with plus := true } r
    | ' ' :: r => readFlags fuel { p with space := true } r
    | '#' :: r => readFlags fuel { p with alternate := true } r
    | _ => (p, s)

/-- The 64 bits of a number as a number without sign. -/
def unsignedOf (n : Int) : Nat := (n % 0x10000000000000000).toNat

/-- A mistake in the format, after which nothing more is written. -/
def State.refuse (st : State) (text : String) : State :=
  { st with complaints := st.complaints ++ [text], stopped := true, malformed := true }

/-- Writes one argument under a conversion letter. -/
def convert (p : Spec) (st : State) (directive : List Char) (letter : Char) : State :=
  match letter with
  | 's' =>
    let (a, st) := st.next
    let cs := (a.getD "").toList
    st.put (p.pad (match p.precision with
      | some n => cs.take n
      | none => cs))
  | 'b' =>
    let (a, st) := st.next
    let cs := (a.getD "").toList
    let (text, stopped) := unescape (cs.length + 1) [] cs
    { st.put (p.pad text) with stopped := stopped }
  | 'c' =>
    let (a, st) := st.next
    st.put (p.pad [((a.getD "").toList.head?).getD '\x00'])
  | 'd' | 'i' =>
    let (n, st) := st.signed
    let sign := if n < 0 then ['-'] else if p.plus then ['+'] else if p.space then [' '] else []
    st.put (p.padNumber sign (digitsIn 10 n.natAbs))
  | 'u' =>
    let (n, st) := st.unsigned
    st.put (p.padNumber [] (digitsIn 10 (unsignedOf n)))
  | 'o' =>
    let (n, st) := st.unsigned
    let ds := digitsIn 8 (unsignedOf n)
    st.put (p.padNumber [] (if p.alternate && ds.head? ≠ some '0' then '0' :: ds else ds))
  | 'x' =>
    let (n, st) := st.unsigned
    st.put (p.padNumber (if p.alternate && n ≠ 0 then ['0', 'x'] else []) (digitsIn 16 (unsignedOf n)))
  | 'X' =>
    let (n, st) := st.unsigned
    st.put (p.padNumber (if p.alternate && n ≠ 0 then ['0', 'X'] else [])
      ((digitsIn 16 (unsignedOf n)).map Char.toUpper))
  | _ => st.refuse (String.ofList ('%' :: directive) ++ ": invalid directive")

/-- Goes through the format once. -/
def once : Nat → State → List Char → State
  | 0, st, _ => st
  | _ + 1, st, [] => st
  | fuel + 1, st, c :: s =>
    if st.stopped then st
    else if c = '\\' then
      match s with
      | e :: r =>
        match shortEscape? e with
        | some c => once fuel (st.put [c]) r
        | none =>
          if (octalDigit? e).isSome then
            let (n, r) := octal 3 0 s
            once fuel (st.put [octetChar n]) r
          else once fuel (st.put ['\\', e]) r
      | [] => st.put ['\\']
    else if c = '%' then
      match s with
      | '%' :: r => once fuel (st.put ['%']) r
      | _ =>
        let directive := s
        let (p, s) := readFlags (s.length + 1) {} s
        let (width, st, s) := readCount st s
        let (precision, st, s) := match s with
          | '.' :: r =>
            let (n, st, r) := readCount st r
            (some n, st, r)
          | _ => (none, st, s)
        match s with
        | [] => st.refuse "missing format character"
        | letter :: r =>
          let used := directive.take (directive.length - r.length)
          let p := { p with
            left := p.left || width < 0
            width := width.natAbs
            precision := precision.bind Int.toNat? }
          once fuel (convert p st used letter) r
    else once fuel (st.put [c]) s

/-- Uses the format as long as it uses up arguments. -/
def again (format : List Char) : Nat → State → State
  | 0, st => st
  | fuel + 1, st =>
    let before := st.arguments.length
    let st := once (format.length + 1) { st with used := false } format
    if st.stopped || st.arguments.isEmpty || !(st.arguments.length < before) then st
    else again format fuel st

/-- What `printf` writes, what it complains about, and its exit status. -/
def printf (format : String) (arguments : List String) : String × List String × Nat :=
  let st := again format.toList (arguments.length + 1) { arguments }
  (String.ofList st.out.reverse, st.complaints,
    if st.malformed then 2 else if st.complaints.isEmpty then 0 else 1)

end ImageGateway.Shell.Format
