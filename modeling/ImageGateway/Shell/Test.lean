import ImageGateway.Shell.Arithmetic
import ImageGateway.Shell.Session

/-!
The conditions of `test`: about files, texts and numbers, joined by `!`, `-a`, `-o` and
parentheses. Whether a word is an operator depends on the words behind it, and how a condition is
read depends first on the number of its words. Every reader gets the words from the one it stands at
and gives them back from the last one that it used.
-/

namespace ImageGateway.Shell.Test

/-- The entry at a path itself, without following a link there. -/
def linkAt (s : Session) (path : String) : Bool :=
  match s.files.locate s.cwd (toText path) false with
  | .ok ⟨_, some (.link _)⟩ => true
  | _ => false

def entryAt? (s : Session) (path : String) : Option Entry := (s.find path).toOption

/-- A condition of one word behind an operator; none if there is no such operator. -/
def unary? (s : Session) (op a : String) : Option Bool :=
  match op with
  | "-n" => some (a ≠ "")
  | "-z" => some (a = "")
  | "-e" => some (entryAt? s a).isSome
  | "-f" => some ((entryAt? s a).any Entry.isRegular)
  | "-d" => some (entryAt? s a = some .dir)
  | "-h" | "-L" => some (linkAt s a)
  | "-s" => some ((entryAt? s a).any fun e => match e with
    | .file content _ => !content.isEmpty
    | .dir => true
    | _ => false)
  | "-r" | "-w" => some (entryAt? s a).isSome
  | "-x" => some ((entryAt? s a).any fun e => e.isExecutable || e = .dir)
  | "-c" => some ((entryAt? s a).any fun e => e = .device .null || e = .device .zero)
  | "-p" | "-S" | "-b" | "-u" | "-g" | "-k" | "-t" => some false
  | "-O" | "-G" => some (entryAt? s a).isSome
  | _ => none

/-- The decimal number of 64 bits that a word spells. -/
def number? (a : String) : Option Int := do
  let cs := ((a.toList.dropWhile Arithmetic.isSpace).reverse.dropWhile Arithmetic.isSpace).reverse
  let (negative, ds) := match cs with
    | '-' :: r => (true, r)
    | '+' :: r => (false, r)
    | r => (false, r)
  let n : Int := ← Arithmetic.valueIn 10 ds
  let v := if negative then -n else n
  if -Arithmetic.largest - 1 ≤ v ∧ v ≤ Arithmetic.largest then some v else none

/-- The inner option tells whether the operands are numbers, where they have to be. -/
def binary? (s : Session) (a op b : String) : Option (Except String Bool) :=
  let compare (f : Int → Int → Bool) : Option (Except String Bool) :=
    match number? a, number? b with
    | some m, some n => some (.ok (f m n))
    | none, _ => some (.error a)
    | _, none => some (.error b)
  match op with
  | "=" => some (.ok (a = b))
  | "!=" => some (.ok (a ≠ b))
  | "<" => some (.ok (a < b))
  | ">" => some (.ok (b < a))
  | "-eq" => compare fun m n => m == n
  | "-ne" => compare fun m n => m != n
  | "-lt" => compare fun m n => m < n
  | "-le" => compare fun m n => m ≤ n
  | "-gt" => compare fun m n => n < m
  | "-ge" => compare fun m n => n ≤ m
  | "-ef" => some (.ok (
      match s.files.locate s.cwd (toText a) true, s.files.locate s.cwd (toText b) true with
      | .ok ⟨p, some _⟩, .ok ⟨q, some _⟩ => p = q
      | _, _ => false))
  | "-nt" | "-ot" => some (.ok false)
  | _ => none

abbrev Answer := Except String Bool

def unaryOperators : List String :=
  ["-n", "-z", "-e", "-f", "-d", "-h", "-L", "-s", "-r", "-w", "-x", "-c", "-p", "-S", "-b", "-u",
    "-g", "-k", "-t", "-O", "-G"]

def binaryOperators : List String :=
  ["=", "!=", "<", ">", "-eq", "-ne", "-lt", "-le", "-gt", "-ge", "-ef", "-nt", "-ot"]

/-- What a word means where it stands. -/
inductive Role where
  | missing
  | operand
  | unary
  | binary
  | not
  | and
  | or
  | opening
  | closing
  deriving DecidableEq

/-- The role of the first word. A unary operator that is last, or stands before a binary operator
with an operand, is an operand; so is a parenthesis that is last. -/
def role : List String → Role
  | [] => .missing
  | w :: rest =>
    if unaryOperators.contains w then
      match rest with
      | [] => .operand
      | [_] => .unary
      | o :: _ => if binaryOperators.contains o then .operand else .unary
    else if binaryOperators.contains w then .binary
    else match w with
      | "!" => .not
      | "-a" => .and
      | "-o" => .or
      | "(" => if rest.isEmpty then .operand else .opening
      | ")" => .closing
      | _ => .operand

mutual

/-- Conditions between `-o`. -/
def anyOf (s : Session) : Nat → Role → List String → Except String (Bool × List String)
  | 0, _, _ => .error "too many arguments"
  | fuel + 1, r, ws => do
    let (a, ws) ← allOf s fuel r ws
    if role ws.tail = .or then
      let (b, ws) ← anyOf s fuel (role (ws.drop 2)) (ws.drop 2)
      return (a || b, ws)
    else return (a, ws)

/-- Conditions between `-a`. -/
def allOf (s : Session) : Nat → Role → List String → Except String (Bool × List String)
  | 0, _, _ => .error "too many arguments"
  | fuel + 1, r, ws => do
    let (a, ws) ← single s fuel r ws
    if role ws.tail = .and then
      let (b, ws) ← allOf s fuel (role (ws.drop 2)) (ws.drop 2)
      return (a && b, ws)
    else return (a, ws)

def single (s : Session) : Nat → Role → List String → Except String (Bool × List String)
  | 0, _, _ => .error "too many arguments"
  | fuel + 1, .not, ws => do
    let (v, ws) ← match role ws.tail with
      | .missing => single s fuel .missing ws
      | r => single s fuel r ws.tail
    return (!v, ws)
  | _ + 1, .missing, ws => .ok (false, ws)
  | fuel + 1, .opening, ws =>
    let inner := ws.tail
    if role inner = .closing then .ok (false, inner)
    else do
      let (v, ws) ← anyOf s fuel (role inner) inner
      if role ws.tail = .closing then return (v, ws.tail) else throw "closing paren expected"
  | _ + 1, .unary, ws =>
    match ws with
    | op :: a :: rest =>
      if op = "-t" && (number? a).isNone then .error ("Illegal number: " ++ a)
      else .ok ((unary? s op a).getD false, a :: rest)
    | op :: [] => .error (op ++ ": argument expected")
    | [] => .ok (false, [])
  | _ + 1, _, ws =>
    if role ws.tail = .binary then
      match ws with
      | a :: op :: b :: rest =>
        match binary? s a op b with
        | some (.ok v) => .ok (v, b :: rest)
        | some (.error w) => .error ("Illegal number: " ++ w)
        | none => .ok (false, b :: rest)
      | _ :: op :: [] => .error (op ++ ": argument expected")
      | _ => .ok (false, ws)
    else .ok (ws.head?.any (· ≠ ""), ws)

end

/-- The answer to a condition. Of three words with a binary operator in the middle, the outer two
are operands whatever they look like. -/
def eval (s : Session) (ws : List String) : Answer := do
  let plain := ws.length = 3 && ws[1]?.any binaryOperators.contains
  let grouped := !plain && (ws.length = 3 || ws.length = 4)
  let (negated, inner) :=
    if grouped && ws.head? = some "(" && ws.getLast? = some ")" then (false, ws.tail.dropLast)
    else if grouped && ws.head? = some "!" then (true, ws.tail)
    else (false, ws)
  let (v, rest) ← anyOf s (4 * ws.length + 4) (if plain then .operand else role inner) inner
  match rest with
  | w :: _ :: _ => throw (if w = "" then "unexpected operator" else w ++ ": unexpected operator")
  | _ => return v != negated

end ImageGateway.Shell.Test
