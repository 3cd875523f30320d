/-!
Writing JSON without blanks. The pieces are texts already written, so what is put together is
always of the caller's shape. In a string only the quote, the backslash and the characters below
the space are escaped.
-/

namespace ImageGateway.Json.Writer

def hexDigit (n : Nat) : Char := Char.ofNat (if n < 10 then 48 + n else 87 + n)

def escape (c : Char) : List Char :=
  if c = '"' then ['\\', '"']
  else if c = '\\' then ['\\', '\\']
  else if 0x20 ≤ c.toNat then [c]
  else if c = '\x08' then ['\\', 'b']
  else if c = '\x0c' then ['\\', 'f']
  else if c = '\n' then ['\\', 'n']
  else if c = '\r' then ['\\', 'r']
  else if c = '\t' then ['\\', 't']
  else ['\\', 'u', '0', '0', hexDigit (c.toNat / 16), hexDigit (c.toNat % 16)]

/-- A string as it is written, quotes included. -/
def string (s : String) : List Char := '"' :: (s.toList.flatMap escape ++ ['"'])

/-- Pieces with commas between them. -/
def commas : List (List Char) → List Char
  | [] => []
  | [x] => x
  | x :: y :: rest => x ++ ',' :: commas (y :: rest)

def array (items : List (List Char)) : List Char := '[' :: (commas items ++ [']'])

def member (key : String) (value : List Char) : List Char := string key ++ ':' :: value

def object (members : List (String × List Char)) : List Char :=
  '\x7b' :: (commas (members.map fun m => member m.1 m.2) ++ ['\x7d'])

def null : List Char := "null".toList

def optional (f : α → List Char) : Option α → List Char
  | some a => f a
  | none => null

end ImageGateway.Json.Writer
