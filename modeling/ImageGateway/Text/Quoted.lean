import ImageGateway.Text.Hidden

/-!
Quoted text: between double quotes, with a backslash before a quote and before a backslash, short
escapes for tab, line feed, carriage return and NUL, and the code point in braces for every other
character that does not show.
-/

namespace ImageGateway.Text

/-- The hexadecimal digits of a number, lower case, without leading zeros. -/
def hexText (n : Nat) : String := String.ofList (Nat.toDigits 16 n)

def quotedChar (c : Char) : List Char :=
  if c = '"' then ['\\', '"']
  else if c = '\\' then ['\\', '\\']
  else if c = '\t' then ['\\', 't']
  else if c = '\n' then ['\\', 'n']
  else if c = '\r' then ['\\', 'r']
  else if c = '\x00' then ['\\', '0']
  else if isHidden c then
    ['\\', 'u', '\x7b'] ++ (hexText c.toNat).toList ++ ['\x7d']
  else [c]

def quoted (s : String) : String :=
  "\"" ++ String.ofList (s.toList.flatMap quotedChar) ++ "\""

end ImageGateway.Text
