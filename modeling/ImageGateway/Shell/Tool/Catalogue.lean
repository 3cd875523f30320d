import ImageGateway.Shell.Tool.Contents
import ImageGateway.Shell.Tool.Files

/-!
Tools that only compute or wait, and the list of all tools.
-/

namespace ImageGateway.Shell.Tool

open FileName (quoted)

/-- Milliseconds of a duration such as `0.5` or `2m`. -/
def milliseconds? (t : String) : Option Nat :=
  let cs := t.toList
  let whole := cs.takeWhile Char.isDigit
  let rest := cs.dropWhile Char.isDigit
  let (fraction, rest) := match rest with
    | '.' :: r => (r.takeWhile Char.isDigit, r.dropWhile Char.isDigit)
    | _ => ([], rest)
  let value (ds : List Char) : Nat := (String.ofList ds).toNat?.getD 0
  let ms := value whole * 1000 + value ((fraction ++ ['0', '0', '0']).take 3)
  if whole.isEmpty && fraction.isEmpty then none
  else match rest with
    | [] | ['s'] => some ms
    | ['m'] => some (ms * 60)
    | ['h'] => some (ms * 3600)
    | ['d'] => some (ms * 86400)
    | _ => none

def sleep : Tool := fun s args =>
  match args.mapM milliseconds? with
  | none =>
    let bad := (args.find? fun a => (milliseconds? a).isNone).getD ""
    if bad = "infinity" then ({ s with hangs := true }, 0)
    else (misused "sleep" s!"invalid time interval {quoted bad}" s, 1)
  | some [] => (misused "sleep" "missing operand" s, 1)
  | some ms => ({ s with elapsed := ms.foldl (· + ·) s.elapsed }, 0)

def seq : Tool := fun s args =>
  let ns := args.filterMap String.toInt?
  let (first, step, last) := match ns with
    | [a] => (1, 1, a)
    | [a, b] => (a, 1, b)
    | [a, b, c] => (a, b, c)
    | _ => (1, 1, (0 : Int))
  if step = 0 then (s, 1)
  else
    let n := ((last - first) / step + 1).toNat
    (printLines ((List.range n).map fun (i : Nat) => toString (first + step * i)) s, 0)

def basename : Tool := fun s args =>
  match args with
  | path :: rest =>
    let name := lastName path
    let cut := rest.headD ""
    let name := if cut ≠ "" && name ≠ cut && name.endsWith cut then
        String.ofList (name.toList.take (name.length - cut.length)) else name
    (s.print 1 (name ++ "\n"), 0)
  | [] => (misused "basename" "missing operand" s, 1)

def dirname : Tool := fun s args =>
  match args with
  | [] => (misused "dirname" "missing operand" s, 1)
  | _ => (printLines (args.map folderName) s, 0)

/-- Fields or characters by their numbers. -/
def cut : Tool := fun s args =>
  let joined := args.foldr (fun a acc =>
    match acc with
    | b :: rest => if a = "-d" || a = "-f" || a = "-c" then (a ++ b) :: rest else a :: acc
    | [] => [a]) []
  let value? (letter : Char) : Option String := joined.findSome? fun a =>
    match a.toList with
    | '-' :: c :: r => if c = letter then some (String.ofList r) else none
    | _ => none
  let files := joined.filter fun a => a.toList.head? ≠ some '-'
  let inList (n : Nat) (spec : String) : Bool :=
    (spec.splitOn ",").any fun part =>
      match part.splitOn "-" with
      | [a] => a.toNat? = some n
      | [a, b] => (a.toNat?.getD 1) ≤ n && n ≤ (b.toNat?.getD n)
      | _ => false
  overInputs "cut" files (fun _ content s =>
    let keep (l : String) : String :=
      match value? 'c', value? 'f' with
      | some spec, _ => String.ofList ((l.toList.zipIdx.filter fun (_, i) => inList (i + 1) spec).map (·.1))
      | none, some spec =>
        let d := (value? 'd').getD "\t"
        if occurs d.toList l.toList then
          d.intercalate (((l.splitOn d).zipIdx.filter fun (_, i) => inList (i + 1) spec).map (·.1))
        else l
      | none, none => l
    printLines ((textLines content).map keep) s) s

/-- Whose number a user has; the scripts run as the first of all users. -/
def id : Tool := fun s args =>
  match args with
  | [] => (s.print 1 "uid=0(root) gid=0(root) groups=0(root)\n", 0)
  | "-un" :: _ | "-gn" :: _ => (s.print 1 "root\n", 0)
  | _ => (s.print 1 "0\n", 0)

/-- The value of two numbers under an operator; a value of zero, or none, counts as failure. -/
def expr : Tool := fun s args =>
  let answer (text : String) : Session × Nat :=
    (s.print 1 (text ++ "\n"), if text = "" || text = "0" then 1 else 0)
  match args with
  | [] => (misused "expr" "missing operand" s, 2)
  | [a] => answer a
  | [a, op, b] =>
    let compare (less equal : Bool) : Bool := match op with
      | "<" => less
      | "<=" => less || equal
      | ">" => !less && !equal
      | ">=" => !less
      | "=" | "==" => equal
      | _ => !equal
    if ["<", "<=", ">", ">=", "=", "==", "!="].contains op then
      match a.toInt?, b.toInt? with
      | some m, some n => answer (if compare (m < n) (m = n) then "1" else "0")
      | _, _ => answer (if compare (a < b) (a = b) then "1" else "0")
    else if ["+", "-", "*", "/", "%"].contains op then
      match a.toInt?, b.toInt? with
      | some m, some n =>
        match op with
        | "+" => answer (toString (m + n))
        | "-" => answer (toString (m - n))
        | "*" => answer (toString (m * n))
        | _ =>
          if n = 0 then (complain "expr" "division by zero" s, 2)
          else answer (toString (if op = "/" then m.tdiv n else m.tmod n))
      | _, _ => (complain "expr" "non-integer argument" s, 2)
    else if op = "|" then answer (if a = "" || a = "0" then b else a)
    else if op = "&" then answer (if a = "" || a = "0" || b = "" || b = "0" then "0" else a)
    else (complain "expr" s!"syntax error: unexpected argument {quoted op}" s, 2)
  | _ => (complain "expr" "syntax error" s, 2)

def fixed (text : String) : Tool := fun s _ => (s.print 1 (text ++ "\n"), 0)

def ending (status : Nat) : Tool := fun s _ => (s, status)

/-- Waits for ever. -/
def hanging : Tool := fun s _ => ({ s with hangs := true }, 0)

/-- The tools by their names. -/
def all : List (String × Tool) := [
  ("cp", checked "cp" "abdfHilLnPprRsS:t:uvxZT" 1 cp),
  ("mv", checked "mv" "bfinS:t:uvZT" 1 mv),
  ("rm", checked "rm" "dfirvIR" 1 rm),
  ("rmdir", checked "rmdir" "pv" 1 rmdir),
  ("mkdir", checked "mkdir" "m:pvZ" 1 mkdir),
  ("ln", checked "ln" "bdfFilLnPrsS:t:Tv" 1 ln),
  ("touch", checked "touch" "acd:fhmr:t:" 1 touch),
  ("cat", checked "cat" "AbeEnstTuv" 1 cat),
  ("wc", checked "wc" "clLmw" 1 wc),
  ("ls", checked "ls" "abcdfghiklmnopqrstuvw:xABCDFGHI:LNQRST:UXZ1" 2 ls),
  ("chmod", chmod), ("chown", ending 0), ("head", head), ("tail", tail), ("tee", tee), ("tr", tr),
  ("sort", sort), ("uniq", uniq), ("grep", grep), ("dd", dd), ("truncate", truncate), ("cmp", cmp),
  ("readlink", readlink), ("realpath", realpath), ("sleep", sleep), ("seq", seq),
  ("basename", checked "basename" "as:z" 1 basename),
  ("dirname", checked "dirname" "z" 1 dirname), ("cut", cut), ("sync", ending 0),
  ("true", ending 0), ("false", ending 1), ("whoami", fixed "root"), ("uname", fixed "Linux"),
  ("yes", hanging), ("id", id),
  ("expr", expr)]

end ImageGateway.Shell.Tool
