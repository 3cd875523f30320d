/-!
Arithmetic of the shell: integers of 64 bits that wrap, with variables and assignments.
-/

namespace ImageGateway.Shell.Arithmetic

inductive Expr where
  | number (n : Int)
  | variable (name : String)
  | unary (op : Char) (e : Expr)
  | binary (op : String) (a b : Expr)
  | choice (test yes no : Expr)
  /-- With an operator, the old value goes into the new one. -/
  | assign (name : String) (op : String) (e : Expr)
  deriving Repr

/-- Values of variables. -/
abbrev Env := List (String × String)

def wrap (n : Int) : Int := n.bmod (1 <<< 64)

/-- Why an expression has no value. -/
inductive Mistake where
  /-- A number, a variable or a parenthesis should stand where something else stands. -/
  | noPrimary
  | unclosed
  | noColon
  /-- Something is left behind a whole expression. -/
  | leftover
  | divisionByZero
  | notANumber (text : String)
  deriving DecidableEq, Repr

/-- What is told about a mistake in an expression. -/
def Mistake.message (expression : String) : Mistake → String
  | .noPrimary => s!"arithmetic expression: expecting primary: \"{expression}\""
  | .unclosed => s!"arithmetic expression: expecting ')': \"{expression}\""
  | .noColon => s!"arithmetic expression: expecting ':': \"{expression}\""
  | .leftover => s!"arithmetic expression: expecting EOF: \"{expression}\""
  | .divisionByZero => s!"arithmetic expression: division by zero: \"{expression}\""
  | .notANumber text => s!"Illegal number: {text}"

/-! ## Reading -/

inductive Sign where
  | number (n : Int)
  | name (s : String)
  | operator (s : String)
  /-- A character that no expression has. -/
  | stray
  deriving DecidableEq

def signs : List String :=
  ["<<=", ">>=", "&&", "||", "<<", ">>", "<=", ">=", "==", "!=", "+=", "-=", "*=", "/=", "%=",
    "&=", "|=", "^=", "+", "-", "*", "/", "%", "<", ">", "=", "!", "~", "&", "|", "^", "?", ":",
    "(", ")"]

def digit? (base : Nat) (c : Char) : Option Nat :=
  let v := if c.isDigit then c.toNat - '0'.toNat
    else if 'a' ≤ c ∧ c ≤ 'f' then c.toNat - 'a'.toNat + 10
    else if 'A' ≤ c ∧ c ≤ 'F' then c.toNat - 'A'.toNat + 10
    else base
  if v < base then some v else none

def valueIn (base : Nat) (cs : List Char) : Option Nat :=
  if cs.isEmpty then none
  else cs.foldlM (fun n c => (digit? base c).map (n * base + ·)) 0

/-- The digits of a number at the front, with their base and what is behind them: decimal, or octal
or hexadecimal by what the number starts with. -/
def digitsAt (cs : List Char) : Nat × List Char × List Char :=
  let split (base : Nat) (cs : List Char) : Nat × List Char × List Char :=
    let isDigit (c : Char) : Bool := (digit? base c).isSome
    (base, cs.takeWhile isDigit, cs.dropWhile isDigit)
  match cs with
  | '0' :: x :: d :: r =>
    if (x = 'x' || x = 'X') && (digit? 16 d).isSome then split 16 (d :: r) else split 8 cs
  | '0' :: _ => split 8 cs
  | _ => split 10 cs

/-- The number at the front, and what is behind it. -/
def numberAt? (cs : List Char) : Option (Nat × List Char) :=
  let (base, digits, rest) := digitsAt cs
  (valueIn base digits).map (·, rest)

/-- A number alone. -/
def literal? (cs : List Char) : Option Int :=
  match numberAt? cs with
  | some (n, []) => some n
  | _ => none

def largest : Int := 0x7FFFFFFFFFFFFFFF

def isNameChar (c : Char) : Bool := c.isAlphanum || c = '_'

def isBlank (c : Char) : Bool := c = ' ' || c = '\t' || c = '\n'

/-- The signs of an expression up to the first character that no expression has. A number that is
too large counts as the largest. -/
def scan : Nat → List Sign → List Char → List Sign
  | 0, done, _ => done.reverse
  | _ + 1, done, [] => done.reverse
  | fuel + 1, done, c :: s =>
    if isBlank c then scan fuel done s
    else match numberAt? (c :: s) with
    | some (n, rest) => scan fuel (.number (min n largest) :: done) rest
    | none =>
      if isNameChar c then
        scan fuel (.name (String.ofList ((c :: s).takeWhile isNameChar)) :: done)
          ((c :: s).dropWhile isNameChar)
      else
        match signs.find? fun o => o.toList.isPrefixOf (c :: s) with
        | some o => scan fuel (.operator o :: done) ((c :: s).drop o.length)
        | none => (.stray :: done).reverse

/-- How strongly a binary operator binds. -/
def strength (o : String) : Option Nat :=
  match o with
  | "||" => some 1
  | "&&" => some 2
  | "|" => some 3
  | "^" => some 4
  | "&" => some 5
  | "==" | "!=" => some 6
  | "<" | ">" | "<=" | ">=" => some 7
  | "<<" | ">>" => some 8
  | "+" | "-" => some 9
  | "*" | "/" | "%" => some 10
  | _ => none

/-- The operator inside an assignment sign. -/
def assigned? (o : String) : Option String :=
  if o ∈ ["==", "!=", "<=", ">="] then none
  else match o.toList.reverse with
    | '=' :: r => some (String.ofList r.reverse)
    | _ => none

/-- What was read, and the signs behind it. -/
abbrev Parsed := Except Mistake (Expr × List Sign)

mutual

def readAll : Nat → List Sign → Parsed
  | 0, _ => .error .noPrimary
  | fuel + 1, .name x :: .operator o :: ts =>
    match assigned? o with
    | some op => do
      let (e, ts) ← readAll fuel ts
      return (.assign x op e, ts)
    | none => readChoice fuel (.name x :: .operator o :: ts)
  | fuel + 1, ts => readChoice fuel ts

def readChoice : Nat → List Sign → Parsed
  | 0, _ => .error .noPrimary
  | fuel + 1, ts => do
    let (a, ts) ← readUnary fuel ts
    let (a, ts) ← readBinary fuel 1 a ts
    match ts with
    | .operator "?" :: ts =>
      let (b, ts) ← readAll fuel ts
      match ts with
      | .operator ":" :: ts =>
        let (c, ts) ← readChoice fuel ts
        return (.choice a b c, ts)
      | _ => throw .noColon
    | _ => return (a, ts)

/-- Goes on from a left operand with operators that bind at least as strongly as asked. -/
def readBinary : Nat → Nat → Expr → List Sign → Parsed
  | 0, _, _, _ => .error .noPrimary
  | fuel + 1, least, a, .operator o :: ts =>
    match strength o with
    | some p =>
      if p < least then .ok (a, .operator o :: ts)
      else do
        let (b, ts) ← readUnary fuel ts
        let (b, ts) ← readBinary fuel (p + 1) b ts
        readBinary fuel least (.binary o a b) ts
    | none => .ok (a, .operator o :: ts)
  | _ + 1, _, a, ts => .ok (a, ts)

def readUnary : Nat → List Sign → Parsed
  | 0, _ => .error .noPrimary
  | fuel + 1, .operator "(" :: ts => do
    let (e, ts) ← readAll fuel ts
    match ts with
    | .operator ")" :: ts => return (e, ts)
    | _ => throw .unclosed
  | fuel + 1, .operator o :: ts =>
    match o.toList with
    | [c] =>
      if c = '-' ∨ c = '+' ∨ c = '!' ∨ c = '~' then do
        let (e, ts) ← readUnary fuel ts
        return (.unary c e, ts)
      else throw .noPrimary
    | _ => throw .noPrimary
  | _ + 1, .number n :: ts => .ok (.number n, ts)
  | _ + 1, .name x :: ts => .ok (.variable x, ts)
  | _ + 1, .stray :: _ => .error .noPrimary
  | _ + 1, [] => .error .noPrimary

end

/-- The expression that a text spells; the empty text spells zero. -/
def parse (s : List Char) : Except Mistake Expr := do
  let ts := scan (s.length + 1) [] s
  if ts.isEmpty then return .number 0
  else
    let (e, rest) ← readAll (8 * ts.length + 8) ts
    if rest.isEmpty then return e else throw .leftover

/-! ## Values -/

def truth (b : Bool) : Int := if b then 1 else 0

/-- The 64 bits of a number. -/
def bits (n : Int) : Nat := (n % 0x10000000000000000).toNat

/-- The value of an operator. -/
def apply (op : String) (a b : Int) : Except Mistake Int :=
  match op with
  | "+" => .ok (a + b)
  | "-" => .ok (a - b)
  | "*" => .ok (a * b)
  | "/" => if b = 0 then .error .divisionByZero else .ok (a.tdiv b)
  | "%" => if b = 0 then .error .divisionByZero else .ok (a.tmod b)
  | "<" => .ok (truth (a < b))
  | ">" => .ok (truth (b < a))
  | "<=" => .ok (truth (a ≤ b))
  | ">=" => .ok (truth (b ≤ a))
  | "==" => .ok (truth (a = b))
  | "!=" => .ok (truth (a ≠ b))
  | "&" => .ok (bits a &&& bits b : Nat)
  | "|" => .ok (bits a ||| bits b : Nat)
  | "^" => .ok (bits a ^^^ bits b : Nat)
  | "<<" => .ok (a * ((1 <<< (bits b % 64) : Nat) : Int))
  | ">>" => .ok (a.shiftRight (bits b % 64))
  | _ => .ok b

def isSpace (c : Char) : Bool := c = ' ' || (9 ≤ c.toNat && c.toNat ≤ 13)

/-- The number of 64 bits that a text spells, with blanks around it; the empty text spells zero. -/
def numberOf? (text : String) : Option Int :=
  let cs := ((text.toList.dropWhile isSpace).reverse.dropWhile isSpace).reverse
  let v := match cs with
    | [] => some 0
    | '-' :: r => (literal? r).map fun n => -n
    | '+' :: r => literal? r
    | r => literal? r
  v.filter fun n => -largest - 1 ≤ n && n ≤ largest

/-- The number that a variable holds. -/
def held (env : Env) (x : String) : Except Mistake Int :=
  let text := (env.lookup x).getD ""
  match numberOf? text with
  | some n => .ok n
  | none => .error (.notANumber text)

/-- Evaluates an expression; assignments are seen by what follows. -/
def eval : Expr → Env → Except Mistake (Int × Env)
  | .number n, env => .ok (n, env)
  | .variable x, env => (held env x).map fun n => (n, env)
  | .unary op e, env => do
    let (n, env) ← eval e env
    let v := if op = '-' then -n else if op = '!' then truth (n = 0)
      else if op = '~' then -n - 1 else n
    return (wrap v, env)
  | .binary "&&" a b, env => do
    let (m, env) ← eval a env
    if m = 0 then return (0, env)
    let (n, env) ← eval b env
    return (truth (n ≠ 0), env)
  | .binary "||" a b, env => do
    let (m, env) ← eval a env
    if m ≠ 0 then return (1, env)
    let (n, env) ← eval b env
    return (truth (n ≠ 0), env)
  | .binary op a b, env => do
    let (m, env) ← eval a env
    let (n, env) ← eval b env
    return (wrap (← apply op m n), env)
  | .choice t y n, env => do
    let (m, env) ← eval t env
    if m ≠ 0 then eval y env else eval n env
  | .assign x op e, env => do
    let (n, env) ← eval e env
    let old ← if op = "" then .ok 0 else held env x
    let v := wrap (← apply op old n)
    return (v, (x, toString v) :: env.filter (·.1 ≠ x))

end ImageGateway.Shell.Arithmetic
