import ImageGateway.Shell.Token

/-!
Shell commands as trees, and how tokens spell them. A script is read one line of commands at a
time (`Command.next?`), so that what stands before a mistake is carried out before the mistake is
noticed.
-/

namespace ImageGateway.Shell

inductive Redirect.Kind where
  | read
  | write
  | append
  | readWrite
  /-- Another name for a descriptor, or `-` to close this one. -/
  | duplicate
  | here
  deriving DecidableEq, Repr

structure Redirect where
  descriptor : Nat
  kind : Redirect.Kind
  target : Word
  deriving DecidableEq, Repr

inductive Command where
  | pass
  | simple (line : Nat) (assignments : List (String × Word)) (words : List Word)
      (redirects : List Redirect)
  | sequence (first second : Command)
  /-- The second only if the first succeeds. -/
  | both (first second : Command)
  /-- The second only if the first fails. -/
  | either (first second : Command)
  | negated (body : Command)
  | pipe (source sink : Command)
  | background (body : Command)
  | subshell (body : Command)
  | redirected (body : Command) (redirects : List Redirect)
  | branch (test yes no : Command)
  /-- Repeats the body as long as the test's success is `while_`. -/
  | loop (while_ : Bool) (test body : Command)
  /-- Without words, the arguments of the script. -/
  | each (name : String) (words : Option (List Word)) (body : Command)
  /-- The body if the subject matches one of the patterns. -/
  | choose (subject : Word) (patterns : List Word) (body otherwise : Command)
  | define (name : String) (body : Command)
  deriving Repr

namespace Command

abbrev Tokens := List Lexeme

/-- What is told where the tokens spell no command. -/
structure Fault where
  line : Nat
  message : String
  deriving DecidableEq, Repr

/-- What was read, and the tokens behind it. -/
abbrev Parsed (α : Type) := α × Tokens

/-- Words that mean something of their own where a command may begin. -/
def reserved : List String :=
  ["!", "case", "do", "done", "elif", "else", "esac", "fi", "for", "if", "in", "then", "until",
    "while", "\x7b", "\x7d"]

/-- A token as messages quote it. -/
def quote : Token → String
  | .operator "\n" => "newline unexpected"
  | .operator o => s!"\"{o}\" unexpected"
  | .word w =>
    match Token.literal? w with
    | some (t, false) => if reserved.contains t then s!"\"{t}\" unexpected" else "word unexpected"
    | _ => "word unexpected"
  | _ => "redirection unexpected"

/-- The error at the front of the tokens. -/
def unexpected (last : Nat) (ts : Tokens) (wanted : String) : Fault :=
  let hint := if wanted = "" then "" else s!" (expecting \"{wanted}\")"
  match ts with
  | [] => ⟨last, s!"Syntax error: end of file unexpected{hint}"⟩
  | ⟨line, .finish⟩ :: _ => ⟨line, s!"Syntax error: end of file unexpected{hint}"⟩
  | ⟨line, .fault m⟩ :: _ => ⟨line, m⟩
  | ⟨line, t⟩ :: _ => ⟨line, s!"Syntax error: {quote t}{hint}"⟩

/-- The bare word at the front, where a reserved word may stand. -/
def bare? : Tokens → Option String
  | ⟨_, .word w⟩ :: _ =>
    match Token.literal? w with
    | some (t, false) => some t
    | _ => none
  | _ => none

def operatorIs (o : String) : Tokens → Bool
  | ⟨_, .operator p⟩ :: _ => p = o
  | _ => false

def lineOf (ts : Tokens) : Nat := (ts.head?.map (·.line)).getD 0

/-- Words that end a list of commands. -/
def closers : List String := ["then", "else", "elif", "fi", "do", "done", "esac", "\x7d"]

def isCloser (ts : Tokens) : Bool := (bare? ts).any closers.contains

/-- Nothing follows. -/
def atEnd : Tokens → Bool
  | [] | ⟨_, .finish⟩ :: _ => true
  | _ => false

def skipLines (ts : Tokens) : Tokens := ts.dropWhile fun l => l.token = .operator "\n"

/-- Takes a reserved word. -/
def word (w : String) (ts : Tokens) : Except Fault (Parsed PUnit) :=
  if bare? ts = some w then .ok (⟨⟩, ts.tail) else .error (unexpected (lineOf ts) ts w)

/-- Takes an operator. -/
def operator (o : String) (ts : Tokens) : Except Fault (Parsed PUnit) :=
  if operatorIs o ts then .ok (⟨⟩, ts.tail) else .error (unexpected (lineOf ts) ts o)

/-! ## Simple commands -/

def redirectKind? : String → Option (Redirect.Kind × Nat)
  | "<" => some (.read, 0)
  | ">" | ">|" => some (.write, 1)
  | ">>" => some (.append, 1)
  | "<>" => some (.readWrite, 0)
  | ">&" => some (.duplicate, 1)
  | "<&" => some (.duplicate, 0)
  | _ => none

/-- A redirection, if one is at the front. -/
def redirect? : Tokens → Option (Redirect × Tokens)
  | ⟨_, .descriptor n⟩ :: ⟨_, .operator o⟩ :: ⟨_, .word w⟩ :: ts =>
    (redirectKind? o).map fun (k, _) => (⟨n, k, w⟩, ts)
  | ⟨_, .descriptor n⟩ :: ⟨_, .here w⟩ :: ts => some (⟨n, .here, w⟩, ts)
  | ⟨_, .operator o⟩ :: ⟨_, .word w⟩ :: ts =>
    (redirectKind? o).map fun (k, n) => (⟨n, k, w⟩, ts)
  | ⟨_, .here w⟩ :: ts => some (⟨0, .here, w⟩, ts)
  | _ => none

/-- All redirections at the front. -/
def redirects : Nat → Tokens → List Redirect × Tokens
  | 0, ts => ([], ts)
  | fuel + 1, ts =>
    match redirect? ts with
    | some (r, ts) =>
      let (rs, ts) := redirects fuel ts
      (r :: rs, ts)
    | none => ([], ts)

def plainChar? : Part → Option Char
  | .plain c => some c
  | _ => none

/-- A word of the form `name=value`. -/
def assignment? (w : Word) : Option (String × Word) :=
  let isChar (p : Part) : Bool := (plainChar? p).any Token.isNameChar
  let name := (w.takeWhile isChar).filterMap plainChar?
  match w.dropWhile isChar with
  | .plain '=' :: value =>
    if (name.head?.any Token.isNameStart) then some (String.ofList name, value) else none
  | _ => none

/-- The parts of a simple command: assignments first, then words, redirections anywhere. -/
def simpleParts : Nat → List (String × Word) → List Word → List Redirect → Tokens →
    (List (String × Word) × List Word × List Redirect) × Tokens
  | 0, as, ws, rs, ts => ((as.reverse, ws.reverse, rs.reverse), ts)
  | fuel + 1, as, ws, rs, ts =>
    match redirect? ts with
    | some (r, ts) => simpleParts fuel as ws (r :: rs) ts
    | none =>
      match ts with
      | ⟨_, .word w⟩ :: ts' =>
        match (if ws.isEmpty then assignment? w else none) with
        | some a => simpleParts fuel (a :: as) ws rs ts'
        | none => simpleParts fuel as (w :: ws) rs ts'
      | _ => ((as.reverse, ws.reverse, rs.reverse), ts)

/-- A simple command, possibly an empty one. -/
def parseSimple (ts : Tokens) : Command × Tokens :=
  let ((as, ws, rs), rest) := simpleParts (ts.length + 1) [] [] [] ts
  (.simple (lineOf ts) as ws rs, rest)

/-- The words after `in`, up to the end of the line. -/
def wordsHere : Tokens → List Word × Tokens
  | ⟨_, .word w⟩ :: ts =>
    let (ws, ts) := wordsHere ts
    (w :: ws, ts)
  | ts => ([], ts)

/-- Patterns between bars, up to the parenthesis behind them. -/
def patterns : Nat → Tokens → Except Fault (Parsed (List Word))
  | fuel + 1, ⟨_, .word w⟩ :: ts =>
    if operatorIs "|" ts then do
      let (ws, ts) ← patterns fuel ts.tail
      return (w :: ws, ts)
    else if operatorIs ")" ts then .ok ([w], ts.tail)
    else .error (unexpected (lineOf ts) ts ")")
  | _, ts => .error (unexpected (lineOf ts) ts (if atEnd ts then ")" else ""))

/-! ## Compound commands -/

/-- A name that a function may have. -/
def isFunctionName (name : String) : Bool :=
  match name.toList with
  | c :: r => Token.isNameStart c && r.all Token.isNameChar
  | [] => false

/-- One word in front of a parenthesis is the head of a function: a name and `()`. -/
def functionHead? (ts : Tokens) : Except Fault (Option (String × Tokens)) :=
  match ts with
  | ⟨_, .word w⟩ :: ⟨_, .operator "("⟩ :: rest =>
    if (assignment? w).isSome || (bare? ts).any reserved.contains then .ok none
    else match rest with
    | ⟨line, .operator ")"⟩ :: body =>
      match bare? ts with
      | some name =>
        if isFunctionName name then .ok (some (name, skipLines body))
        else .error ⟨line, "Syntax error: Bad function name"⟩
      | none => .error ⟨line, "Syntax error: Bad function name"⟩
    | ⟨line, .word _⟩ :: _ => .error ⟨line, "Syntax error: word unexpected (expecting \")\")"⟩
    | _ => .error (unexpected (lineOf rest) rest ")")
  | _ => .ok none

mutual

/-- Commands up to a closing word, a closing operator or the end. -/
def parseList : Nat → Tokens → Except Fault (Parsed Command)
  | 0, ts => .error (unexpected 0 ts "")
  | fuel + 1, ts =>
    let ts := skipLines ts
    if atEnd ts || isCloser ts || operatorIs ")" ts || operatorIs ";;" ts then .ok (.pass, ts)
    else do
      let (c, ts) ← parseAndOr fuel ts
      if operatorIs ";" ts || operatorIs "\n" ts then
        let (r, ts) ← parseList fuel ts.tail
        return (.sequence c r, ts)
      else if operatorIs "&" ts then
        let (r, ts) ← parseList fuel ts.tail
        return (.sequence (.background c) r, ts)
      else return (c, ts)

/-- Pipelines between `&&` and `||`, which bind to the left alike. -/
def parseAndOr : Nat → Tokens → Except Fault (Parsed Command)
  | 0, ts => .error (unexpected 0 ts "")
  | fuel + 1, ts => do
    let (c, ts) ← parsePipeline fuel ts
    parseAndOrTail fuel c ts

def parseAndOrTail : Nat → Command → Tokens → Except Fault (Parsed Command)
  | 0, _, ts => .error (unexpected 0 ts "")
  | fuel + 1, c, ts =>
    if operatorIs "&&" ts then do
      let (d, ts) ← parsePipeline fuel (skipLines ts.tail)
      parseAndOrTail fuel (.both c d) ts
    else if operatorIs "||" ts then do
      let (d, ts) ← parsePipeline fuel (skipLines ts.tail)
      parseAndOrTail fuel (.either c d) ts
    else .ok (c, ts)

def parsePipeline : Nat → Tokens → Except Fault (Parsed Command)
  | 0, ts => .error (unexpected 0 ts "")
  | fuel + 1, ts =>
    if bare? ts = some "!" then do
      let (c, ts) ← parsePipeline fuel ts.tail
      return (.negated c, ts)
    else do
      let (c, ts) ← parseCommand fuel ts
      if operatorIs "|" ts then
        let (d, ts) ← parsePipeline fuel (skipLines ts.tail)
        return (.pipe c d, ts)
      else return (c, ts)

/-- One command with the redirections behind it. -/
def parseCommand : Nat → Tokens → Except Fault (Parsed Command)
  | 0, ts => .error (unexpected 0 ts "")
  | fuel + 1, ts =>
    match functionHead? ts with
    | .error e => .error e
    | .ok (some (name, ts)) => do
      let (body, ts) ← parseCommand fuel ts
      return (.define name body, ts)
    | .ok none =>
      match bare? ts with
      | some w =>
        if w ∈ ["if", "while", "until", "for", "case", "\x7b"] then do
          let (c, ts) ← parseCompound fuel w ts.tail
          let (rs, ts) := redirects ts.length ts
          return (if rs.isEmpty then c else .redirected c rs, ts)
        else if closers.contains w then .error (unexpected (lineOf ts) ts "")
        else .ok (parseSimple ts)
      | none =>
        if operatorIs "(" ts then do
          let (c, ts) ← parseList fuel ts.tail
          let (_, ts) ← operator ")" ts
          let (rs, ts) := redirects ts.length ts
          return (if rs.isEmpty then .subshell c else .redirected (.subshell c) rs, ts)
        else
          match parseSimple ts with
          | (.simple _ [] [] [], ts) => .error (unexpected (lineOf ts) ts "")
          | (c, ts) => .ok (c, ts)

/-- What follows the reserved word of a compound command. -/
def parseCompound : Nat → String → Tokens → Except Fault (Parsed Command)
  | 0, _, ts => .error (unexpected 0 ts "")
  | fuel + 1, "if", ts => parseIf fuel ts
  | fuel + 1, "while", ts => parseLoop fuel true ts
  | fuel + 1, "until", ts => parseLoop fuel false ts
  | fuel + 1, "for", ts =>
    match bare? ts with
    | none => .error ⟨lineOf ts, "Syntax error: Bad for loop variable"⟩
    | some name => do
      let ts := skipLines ts.tail
      let (words, ts) :=
        if bare? ts = some "in" then
          let (ws, ts) := wordsHere ts.tail
          (some ws, ts)
        else (none, ts)
      let ts := skipLines (if operatorIs ";" ts then ts.tail else ts)
      let (_, ts) ← word "do" ts
      let (body, ts) ← parseList fuel ts
      let (_, ts) ← word "done" ts
      return (.each name words body, ts)
  | fuel + 1, "case", ts =>
    match ts with
    | ⟨_, .word w⟩ :: ts => do
      let (_, ts) ← word "in" (skipLines ts)
      parseCases fuel w (skipLines ts)
    | _ => .error (unexpected (lineOf ts) ts "")
  | fuel + 1, _, ts => do
    let (body, ts) ← parseList fuel ts
    let (_, ts) ← word "\x7d" ts
    return (body, ts)

/-- From behind `if` or `elif` to behind `fi`. -/
def parseIf : Nat → Tokens → Except Fault (Parsed Command)
  | 0, ts => .error (unexpected 0 ts "")
  | fuel + 1, ts => do
    let (test, ts) ← parseList fuel ts
    let (_, ts) ← word "then" ts
    let (yes, ts) ← parseList fuel ts
    if bare? ts = some "elif" then
      let (no, ts) ← parseIf fuel ts.tail
      return (.branch test yes no, ts)
    else if bare? ts = some "else" then
      let (no, ts) ← parseList fuel ts.tail
      let (_, ts) ← word "fi" ts
      return (.branch test yes no, ts)
    else
      let (_, ts) ← word "fi" ts
      return (.branch test yes .pass, ts)

def parseLoop : Nat → Bool → Tokens → Except Fault (Parsed Command)
  | 0, _, ts => .error (unexpected 0 ts "")
  | fuel + 1, while_, ts => do
    let (test, ts) ← parseList fuel ts
    let (_, ts) ← word "do" ts
    let (body, ts) ← parseList fuel ts
    let (_, ts) ← word "done" ts
    return (.loop while_ test body, ts)

/-- The branches of a `case` on a word. -/
def parseCases : Nat → Word → Tokens → Except Fault (Parsed Command)
  | 0, _, ts => .error (unexpected 0 ts "")
  | fuel + 1, subject, ts =>
    if bare? ts = some "esac" then .ok (.pass, ts.tail)
    else do
      let ts := if operatorIs "(" ts then ts.tail else ts
      let (ps, ts) ← patterns ts.length ts
      let (body, ts) ← parseList fuel ts
      let ts := if operatorIs ";;" ts then ts.tail else ts
      let (rest, ts) ← parseCases fuel subject (skipLines ts)
      return (.choose subject ps body rest, ts)

end

/-- The commands up to the end of a line, and the tokens behind it; none at the end of a script. -/
def next? (ts : Tokens) : Except Fault (Option (Command × Tokens)) :=
  let ts := skipLines ts
  if atEnd ts then .ok none
  else do
    let (c, ts) ← parseLine (8 * ts.length + 8) ts
    return some (c, ts)
where
  /-- Commands with `;` and `&` between them. -/
  parseLine : Nat → Tokens → Except Fault (Parsed Command)
    | 0, ts => .error (unexpected 0 ts "")
    | fuel + 1, ts => do
      let (c, ts) ← parseAndOr fuel ts
      let (c, ts, more) :=
        if operatorIs ";" ts then (c, ts.tail, true)
        else if operatorIs "&" ts then (.background c, ts.tail, true)
        else (c, ts, false)
      if atEnd ts then return (c, ts)
      else if operatorIs "\n" ts then return (c, ts.tail)
      else if more then
        let (d, ts) ← parseLine fuel ts
        return (.sequence c d, ts)
      else throw (unexpected (lineOf ts) ts "")

end Command

end ImageGateway.Shell
