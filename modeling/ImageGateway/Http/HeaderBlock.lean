import ImageGateway.Http.MediaType

/-!
Header fields as octets: one a line, the name and a colon first, up to a blank line. A line ends
with a line feed, before which a carriage return may stand.
-/

namespace ImageGateway.Http.HeaderBlock

def isNameOctet (b : UInt8) : Bool := b < 0x80 && isTokenChar (Char.ofNat b.toNat)

def isValueOctet (b : UInt8) : Bool := (0x20 ≤ b && b ≠ 0x7F) || b = 0x09

def isPad (b : UInt8) : Bool := b = 0x20 || b = 0x09

/-- What follows the end of a line that comes next. -/
def lineEnd? : Bytes → Option Bytes
  | 0x0D :: 0x0A :: s => some s
  | 0x0A :: s => some s
  | _ => none

/-- One line with the text behind it. The value goes without the blanks around it. -/
def line? (s : Bytes) : Option ((String × Bytes) × Bytes) :=
  let name := s.takeWhile isNameOctet
  match s.dropWhile isNameOctet with
  | 0x3A :: rest =>
    let value := (rest.takeWhile isValueOctet).dropWhile isPad
    if name = [] then none
    else (lineEnd? (rest.dropWhile isValueOctet)).map fun rest =>
      ((Text.Utf8.lossy name, (value.reverse.dropWhile isPad).reverse), rest)
  | _ => none

/-- The most fields that a block may have. -/
def maxFields : Nat := 32

/-- Reads up to a blank line, with room for so many fields. -/
def fields? (room : Nat) (s : Bytes) : Option Headers :=
  match lineEnd? s with
  | some _ => some []
  | none =>
    match room with
    | 0 => none
    | room + 1 => do
      let (field, rest) ← line? s
      let fields ← fields? room rest
      return field :: fields

/-- The fields in front of the first blank line. -/
def read? (s : Bytes) : Option Headers := fields? maxFields s

end ImageGateway.Http.HeaderBlock
