/-!
Tokens of shell scripts. A word is a list of parts; what is quoted in it is told from what is not,
and expansions keep their text, to be read when they are carried out. Here-documents are put where
their operator stands. Where a script is unfinished stands a `fault`, and nothing follows it.
-/

namespace ImageGateway.Shell

/-- What an expansion does to its parameter. -/
inductive Operation where
  | value
  | length
  /-- `-`, `=`, `?` or `+`; with a colon the empty value counts as missing. -/
  | fallback (kind : Char) (orEmpty : Bool)
  /-- Removes a pattern from the front or the end, the shortest or the longest match. -/
  | strip (front longest : Bool)
  deriving DecidableEq, Repr

inductive Part where
  | plain (c : Char)
  | quoted (c : Char)
  /-- Quotes stood here: the word is there even if it comes out empty. -/
  | quotes
  | parameter (quoted : Bool) (name : String) (op : Operation) (operand : List Char)
  /-- The output of a script, which may count its lines from one again. -/
  | output (quoted recounted : Bool) (script : List Char)
  /-- The value of an arithmetic expression. -/
  | arithmetic (quoted : Bool) (expression : List Char)
  deriving DecidableEq, Repr

abbrev Word := List Part

inductive Token where
  | word (w : Word)
  /-- An operator, or a line end. -/
  | operator (text : String)
  /-- The number in front of a redirection. -/
  | descriptor (n : Nat)
  /-- The place of a here-document, which is still to come. -/
  | hereMark
  | here (w : Word)
  | fault (message : String)
  /-- The end of the script. -/
  | finish
  deriving DecidableEq, Repr

structure Lexeme where
  line : Nat
  token : Token
  deriving DecidableEq, Repr

namespace Token

/-! ## Balanced text -/

inductive Mode where
  | bare
  | single
  | double
  deriving DecidableEq

/-- The text up to the bracket that closes the one already open, and the rest. Brackets in quotes
and behind a backslash do not count. -/
def balanced (left right : Char) : Nat → Mode → List Char → List Char →
    Option (List Char × List Char)
  | _, _, _, [] => none
  | depth, .single, done, c :: s =>
    balanced left right depth (if c = '\'' then .bare else .single) (c :: done) s
  | _, _, _, ['\\'] => none
  | depth, mode, done, '\\' :: c :: s => balanced left right depth mode (c :: '\\' :: done) s
  | depth, .double, done, c :: s =>
    balanced left right depth (if c = '"' then .bare else .double) (c :: done) s
  | depth, .bare, done, c :: s =>
    if c = '\'' then balanced left right depth .single (c :: done) s
    else if c = '"' then balanced left right depth .double (c :: done) s
    else if c = left then balanced left right (depth + 1) .bare (c :: done) s
    else if c = right then
      match depth with
      | 0 => some (done.reverse, s)
      | depth + 1 => balanced left right depth .bare (c :: done) s
    else balanced left right depth .bare (c :: done) s

/-- The script between backquotes, without the backslashes that protect it. -/
def backquoted (inDouble : Bool) : List Char → List Char → Option (List Char × List Char)
  | _, [] => none
  | done, '\\' :: c :: s =>
    if c = '$' ∨ c = '\x60' ∨ c = '\\' ∨ (inDouble ∧ c = '"') then backquoted inDouble (c :: done) s
    else backquoted inDouble (c :: '\\' :: done) s
  | done, c :: s =>
    if c = '\x60' then some (done.reverse, s) else backquoted inDouble (c :: done) s

/-! ## Parameters -/

def isNameStart (c : Char) : Bool := c.isAlpha || c = '_'
def isNameChar (c : Char) : Bool := c.isAlphanum || c = '_'

/-- Parameters with a name of one special character. -/
def isSpecial (c : Char) : Bool := "@*#?-$!".toList.contains c

/-- The name at the front. Without braces only one digit belongs to it. -/
def parameterName (braced : Bool) (s : List Char) : Option (String × List Char) :=
  match s with
  | [] => none
  | c :: r =>
    if isNameStart c then
      some (String.ofList (s.takeWhile isNameChar), s.dropWhile isNameChar)
    else if c.isDigit then
      if braced then some (String.ofList (s.takeWhile Char.isDigit), s.dropWhile Char.isDigit)
      else some (String.ofList [c], r)
    else if isSpecial c then some (String.ofList [c], r)
    else none

/-- What stands between the braces of an expansion. -/
def bracedPart (quoted : Bool) (s : List Char) : Option Part :=
  match s with
  | '#' :: r@(_ :: _) =>
    match parameterName true r with
    | some (name, []) => some (.parameter quoted name .length [])
    | _ => withOperation s
  | _ => withOperation s
where
  withOperation (s : List Char) : Option Part := do
    let (name, r) ← parameterName true s
    match r with
    | [] => return .parameter quoted name .value []
    | '%' :: '%' :: w => return .parameter quoted name (.strip false true) w
    | '%' :: w => return .parameter quoted name (.strip false false) w
    | '#' :: '#' :: w => return .parameter quoted name (.strip true true) w
    | '#' :: w => return .parameter quoted name (.strip true false) w
    | ':' :: k :: w =>
      if "-=?+".toList.contains k then return .parameter quoted name (.fallback k true) w else none
    | k :: w =>
      if "-=?+".toList.contains k then return .parameter quoted name (.fallback k false) w else none

def missingBrace : String := "Syntax error: Missing '\x7d'"

def badSubstitution : String := "Bad substitution"

/-- What follows a dollar sign: an expansion and the rest; a dollar sign that starts none stands
for itself. -/
def dollar (quoted : Bool) (s : List Char) : Except String (Part × List Char) :=
  let itself : Except String (Part × List Char) := .ok (if quoted then .quoted '$' else .plain '$', s)
  match s with
  | '(' :: r =>
    match balanced '(' ')' 0 .bare [] r with
    | none => .error "Syntax error: end of file unexpected (expecting \")\")"
    | some (body, rest) =>
      match body, body.reverse with
      | '(' :: inner, ')' :: _ => .ok (.arithmetic quoted inner.dropLast, rest)
      | _, _ => .ok (.output quoted false body, rest)
  | '\x7b' :: r =>
    match balanced '\x7b' '\x7d' 0 .bare [] r with
    | none => .error missingBrace
    | some (body, rest) =>
      match bracedPart quoted body with
      | some p => .ok (p, rest)
      | none => .error badSubstitution
  | _ =>
    match parameterName false s with
    | some (name, rest) => .ok (.parameter quoted name .value [], rest)
    | none => itself

/-! ## Words -/

def unterminated : String := "Syntax error: Unterminated quoted string"

/-- A backslash between double quotes protects only these. -/
def isProtected (c : Char) : Bool := c = '$' || c = '\x60' || c = '"' || c = '\\'

/-- The parts of a text in which only dollar signs, backquotes and backslashes count, up to a
double quote if `closed`, else to the end of the text. Parts are held last first. -/
def doubleParts (closed : Bool) : Nat → List Part → List Char →
    Except String (List Part × List Char)
  | 0, _, _ => .error unterminated
  | _ + 1, done, [] => if closed then .error unterminated else .ok (done, [])
  | fuel + 1, done, c :: s =>
    if c = '"' && closed then .ok (done, s)
    else if c = '$' then
      match dollar true s with
      | .error e => .error e
      | .ok (p, s) => doubleParts closed fuel (p :: done) s
    else if c = '\x60' then
      match backquoted closed [] s with
      | none => .error "Syntax error: EOF in backquote substitution"
      | some (body, s) => doubleParts closed fuel (.output true true body :: done) s
    else
      match c, s with
      | '\\', '\n' :: s => doubleParts closed fuel done s
      | '\\', d :: s =>
        if isProtected d && (closed || d ≠ '"') then doubleParts closed fuel (.quoted d :: done) s
        else doubleParts closed fuel (.quoted d :: .quoted '\\' :: done) s
      | _, _ => doubleParts closed fuel (.quoted c :: done) s

/-- Ends a word when it is not quoted. -/
def isMeta (c : Char) : Bool := " \t\n;&|<>()".toList.contains c

/-- The parts of a word, held last first, and the rest behind it. With `whole` nothing but the end
of the text ends the word. -/
def wordParts (whole : Bool) : Nat → List Part → List Char →
    Except String (List Part × List Char)
  | 0, done, s => .ok (done, s)
  | _ + 1, done, [] => .ok (done, [])
  | fuel + 1, done, c :: s =>
    if isMeta c && !whole then .ok (done, c :: s)
    else if c = '\'' then
      match s.dropWhile (· ≠ '\'') with
      | [] => .error unterminated
      | _ :: r =>
        wordParts whole fuel
          (((s.takeWhile (· ≠ '\'')).map Part.quoted).reverse ++ .quotes :: done) r
    else if c = '"' then
      match doubleParts true (s.length + 1) (.quotes :: done) s with
      | .error e => .error e
      | .ok (done, s) => wordParts whole fuel done s
    else if c = '$' then
      match dollar false s with
      | .error e => .error e
      | .ok (p, s) => wordParts whole fuel (p :: done) s
    else if c = '\x60' then
      match backquoted false [] s with
      | none => .error "Syntax error: EOF in backquote substitution"
      | some (body, s) => wordParts whole fuel (.output false true body :: done) s
    else
      match c, s with
      | '\\', '\n' :: s => wordParts whole fuel done s
      | '\\', d :: s => wordParts whole fuel (.quoted d :: done) s
      | _, _ => wordParts whole fuel (.plain c :: done) s

/-- The word that a whole text is. -/
def wordOf (s : List Char) : Except String Word :=
  (wordParts true (s.length + 1) [] s).map fun (ps, _) => ps.reverse

/-- The same between double quotes. -/
def quotedWordOf (s : List Char) : Except String Word :=
  (doubleParts false (s.length + 1) [] s).map fun (ps, _) => ps.reverse

/-- The text of a word that consists of plain and quoted characters, and whether any was quoted. -/
def literal? (w : Word) : Option (String × Bool) :=
  (w.foldr (fun p acc =>
    match p, acc with
    | .plain c, some (cs, q) => some (c :: cs, q)
    | .quoted c, some (cs, _) => some (c :: cs, true)
    | .quotes, some (cs, _) => some (cs, true)
    | _, _ => none) (some ([], false))).map fun (cs, q) => (String.ofList cs, q)

/-! ## Scripts -/

/-- Operators, longer ones first. -/
def operators : List String :=
  ["<<-", "&&", "||", ";;", ">>", "<<", ">&", "<&", "<>", ">|", ";", "&", "|", "(", ")", "<", ">"]

def operator? (s : List Char) : Option (String × List Char) :=
  (operators.find? fun o => o.toList.isPrefixOf s).map fun o => (o, s.drop o.length)

/-- A here-document that is still to be read. -/
structure Pending where
  delimiter : String
  /-- Its text is taken as it stands. -/
  verbatim : Bool
  /-- Tabs in front of its lines are dropped. -/
  stripTabs : Bool

/-- One line without its end, and what follows, if anything does. -/
def splitLine (s : List Char) : List Char × List Char :=
  (s.takeWhile (· ≠ '\n'), (s.dropWhile (· ≠ '\n')).drop 1)

/-- The lines up to the delimiter, and the rest behind it. -/
def hereLines (p : Pending) : Nat → List Char → List Char → List Char × List Char
  | 0, done, s => (done, s)
  | fuel + 1, done, s =>
    if s = [] then (done, [])
    else
      let (line, rest) := splitLine s
      let line := if p.stripTabs then line.dropWhile (· = '\t') else line
      if String.ofList line = p.delimiter then (done, rest)
      else hereLines p fuel (done ++ line ++ ['\n']) rest

/-- Reads the here-documents that a line announced. -/
def hereDocuments : List Pending → List Char → List Token × List Char
  | [], s => ([], s)
  | p :: ps, s =>
    let (body, rest) := hereLines p (s.length + 1) [] s
    let token := if p.verbatim then Token.here (body.map Part.quoted)
      else match quotedWordOf body with
        | .ok w => .here w
        | .error e => .fault e
    let (tokens, rest) := hereDocuments ps rest
    (token :: tokens, rest)

def lineCount (s : List Char) : Nat := s.countP (· = '\n')

/-- The line where a mistake is noticed: at the end of what is left of the script, unless it is one
that shows at once. -/
def faultLine (line : Nat) (message : String) (s : List Char) : Nat :=
  if message = missingBrace || message = badSubstitution then line else line + lineCount s

/-- Splits a script into tokens, held last first; the bodies of here-documents come behind the end
of their line. -/
def scan : Nat → Nat → List Pending → List Lexeme → List Char → List Lexeme
  | 0, _, _, done, _ => done
  | _ + 1, line, _, done, [] => ⟨line, .finish⟩ :: done
  | fuel + 1, line, pending, done, c :: s =>
    if c = ' ' || c = '\t' then scan fuel line pending done s
    else if c = '#' then scan fuel line pending done (s.dropWhile (· ≠ '\n'))
    else if c = '\n' then
      let (heres, rest) := hereDocuments pending s
      let done := heres.foldl (fun d t => ⟨line, t⟩ :: d) (⟨line, .operator "\n"⟩ :: done)
      scan fuel (line + 1 + lineCount (s.take (s.length - rest.length))) [] done rest
    else if c = '\\' && s.head? = some '\n' then scan fuel (line + 1) pending done (s.drop 1)
    else
      match operator? (c :: s) with
      | some ("<<", rest) => hereStart fuel line pending done false rest
      | some ("<<-", rest) => hereStart fuel line pending done true rest
      | some (o, rest) => scan fuel line pending (⟨line, .operator o⟩ :: done) rest
      | none =>
        let digits := (c :: s).takeWhile Char.isDigit
        let behind := (c :: s).dropWhile Char.isDigit
        if digits ≠ [] && (behind.head? = some '<' || behind.head? = some '>') then
          let n := digits.foldl (fun n c => n * 10 + (c.toNat - '0'.toNat)) 0
          scan fuel line pending (⟨line, .descriptor n⟩ :: done) behind
        else
          match wordParts false (s.length + 2) [] (c :: s) with
          | .error e => ⟨faultLine line e (c :: s), .fault e⟩ :: done
          | .ok (ps, rest) =>
            let used := lineCount ((c :: s).take (s.length + 1 - rest.length))
            scan fuel (line + used) pending (⟨line, .word ps.reverse⟩ :: done) rest
where
  /-- The delimiter behind the operator of a here-document. -/
  hereStart (fuel line : Nat) (pending : List Pending) (done : List Lexeme) (stripTabs : Bool)
      (s : List Char) : List Lexeme :=
    let s := s.dropWhile fun c => c = ' ' || c = '\t'
    match wordParts false (s.length + 1) [] s with
    | .error e => ⟨line, .fault e⟩ :: done
    | .ok (ps, rest) =>
      match literal? ps.reverse with
      | none => ⟨line, .fault "Syntax error: Bad here-document"⟩ :: done
      | some (delimiter, verbatim) =>
        scan fuel line (pending ++ [⟨delimiter, verbatim, stripTabs⟩]) (⟨line, .hereMark⟩ :: done)
          rest

/-- Puts the bodies of here-documents at their marks, in order. -/
def placeHeres (ts : List Lexeme) : List Lexeme :=
  let isHere (l : Lexeme) : Bool := match l.token with
    | .here _ => true
    | _ => false
  let bodies := ts.filter isHere
  ((ts.filter fun l => !isHere l).foldl (fun (acc : List Lexeme × List Lexeme) l =>
    match l.token, acc.2 with
    | .hereMark, b :: bs => (⟨l.line, b.token⟩ :: acc.1, bs)
    | .hereMark, [] => (⟨l.line, .here []⟩ :: acc.1, [])
    | _, bs => (l :: acc.1, bs)) ([], bodies)).1.reverse

/-- The tokens of a script, whose first line has the given number. -/
def ofScript (line : Nat) (s : List Char) : List Lexeme :=
  placeHeres (scan (s.length + 1) line [] [] s).reverse

end Token

end ImageGateway.Shell
