import ImageGateway.Shell.Octets

/-!
File names in messages. A name is put between single quotes in such a way that a shell would read it
back: octets that do not show are written as escapes in a part `$'…'` of their own, and a name whose
only trouble is an apostrophe is put between double quotes.
-/

namespace ImageGateway.Shell.FileName

def isShown (c : Char) : Bool := 32 ≤ c.toNat && c.toNat < 127

/-- Characters that mean something to a shell wherever they stand. -/
def isSpecial (c : Char) : Bool := " !\"$&()*;<=>?[^`|\\'".toList.contains c

/-- Characters that mean something to a shell at the front of a word. -/
def isSpecialFront (c : Char) : Bool := c = '#' || c = '~'

/-- Brackets that mean something if they are the whole word. -/
def isLoneBrace (name : List Char) : Bool := name = ['\x7b'] || name = ['\x7d']

/-- A name that reads the same between double quotes, in a shell and elsewhere. -/
def isPlain (name : List Char) : Bool :=
  isLoneBrace name || match name with
    | [] => true
    | c :: rest =>
      let fine (c : Char) : Bool :=
        isShown c && !"!\"$&()*;<=>?[^`|\\#~\x7b\x7d".toList.contains c
      (fine c || isSpecialFront c) && rest.all fine

/-- A character that does not show, after a backslash. -/
def escape (c : Char) : List Char :=
  match c with
  | '\x07' => ['a']
  | '\x08' => ['b']
  | '\x0c' => ['f']
  | '\n' => ['n']
  | '\r' => ['r']
  | '\t' => ['t']
  | '\x0b' => ['v']
  | c => [c.toNat / 64, c.toNat / 8 % 8, c.toNat % 8].map Nat.digitChar

/-- The inside of a quoted name; the flag says that a part with escapes is open. -/
def body : Bool → List Char → List Char
  | _, [] => []
  | escaping, c :: rest =>
    if c = '\'' then ['\'', '\\', '\'', '\''] ++ body false rest
    else if isShown c then (if escaping then ['\'', '\''] else []) ++ c :: body false rest
    else (if escaping then [] else ['\'', '$', '\'']) ++ '\\' :: (escape c ++ body true rest)

/-- The name between quotes. -/
def quoted (name : String) : String :=
  let cs := name.toList
  if cs.contains '\'' && isPlain cs then "\"" ++ name ++ "\""
  else "'" ++ String.ofList (body false cs) ++ "'"

/-- The name between quotes if it needs them; a colon would hide where it ends. -/
def shown (name : String) : String :=
  let cs := name.toList
  let bare := !cs.isEmpty && !isLoneBrace cs && !(cs.head?.any isSpecialFront) &&
    cs.all fun c => isShown c && !isSpecial c && c ≠ ':'
  if bare then name else quoted name

end ImageGateway.Shell.FileName
