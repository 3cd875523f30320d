import ImageGateway.Text.Charset.Table
import ImageGateway.Text.Utf8

/-!
Text in a character set of its own. The set is found by one of its labels. A mark at the beginning
that tells UTF-8 or UTF-16 comes before what the label says, and is not part of the text; octets
that form no character become U+FFFD.
-/

namespace ImageGateway.Text

inductive Charset where
  | utf8
  | utf16 (bigEndian : Bool)
  /-- An octet below 0x80 is its own character; for the others there is a table. -/
  | singleByte (upper : String)
  /-- A set that is not read: any text at all is one U+FFFD. -/
  | replacement
  deriving DecidableEq, Repr

namespace Charset

/-- A table that puts every octet at a place of its own outside of all scripts. -/
def privateUse : String := String.ofList ((List.range 128).map fun n => Char.ofNat (0xF780 + n))

/-- The sets with their labels. -/
def labels : List (Charset × String) := [
  (utf8, "unicode-1-1-utf-8 unicode11utf8 unicode20utf8 utf-8 utf8 x-unicode20utf8"),
  (.singleByte Table.ibm866, "866 cp866 csibm866 ibm866"),
  (.singleByte Table.iso8859p2,
    "csisolatin2 iso-8859-2 iso-ir-101 iso8859-2 iso88592 iso_8859-2 iso_8859-2:1987 l2 " ++
    "latin2"),
  (.singleByte Table.iso8859p3,
    "csisolatin3 iso-8859-3 iso-ir-109 iso8859-3 iso88593 iso_8859-3 iso_8859-3:1988 l3 " ++
    "latin3"),
  (.singleByte Table.iso8859p4,
    "csisolatin4 iso-8859-4 iso-ir-110 iso8859-4 iso88594 iso_8859-4 iso_8859-4:1988 l4 " ++
    "latin4"),
  (.singleByte Table.iso8859p5,
    "csisolatincyrillic cyrillic iso-8859-5 iso-ir-144 iso8859-5 iso88595 iso_8859-5 " ++
    "iso_8859-5:1988"),
  (.singleByte Table.iso8859p6,
    "arabic asmo-708 csiso88596e csiso88596i csisolatinarabic ecma-114 iso-8859-6 " ++
    "iso-8859-6-e iso-8859-6-i iso-ir-127 iso8859-6 iso88596 iso_8859-6 iso_8859-6:1987"),
  (.singleByte Table.iso8859p7,
    "csisolatingreek ecma-118 elot_928 greek greek8 iso-8859-7 iso-ir-126 iso8859-7 " ++
    "iso88597 iso_8859-7 iso_8859-7:1987 sun_eu_greek"),
  (.singleByte Table.iso8859p8,
    "csiso88598e csisolatinhebrew hebrew iso-8859-8 iso-8859-8-e iso-ir-138 iso8859-8 " ++
    "iso88598 iso_8859-8 iso_8859-8:1988 visual csiso88598i iso-8859-8-i logical"),
  (.singleByte Table.iso8859p10,
    "csisolatin6 iso-8859-10 iso-ir-157 iso8859-10 iso885910 l6 latin6"),
  (.singleByte Table.iso8859p13, "iso-8859-13 iso8859-13 iso885913"),
  (.singleByte Table.iso8859p14, "iso-8859-14 iso8859-14 iso885914"),
  (.singleByte Table.iso8859p15, "csisolatin9 iso-8859-15 iso8859-15 iso885915 iso_8859-15 l9"),
  (.singleByte Table.iso8859p16, "iso-8859-16"),
  (.singleByte Table.koi8R, "cskoi8r koi koi8 koi8-r koi8_r"),
  (.singleByte Table.koi8U, "koi8-ru koi8-u"),
  (.singleByte Table.macintosh, "csmacintosh mac macintosh x-mac-roman"),
  (.singleByte Table.windows874,
    "dos-874 iso-8859-11 iso8859-11 iso885911 tis-620 windows-874"),
  (.singleByte Table.windows1250, "cp1250 windows-1250 x-cp1250"),
  (.singleByte Table.windows1251, "cp1251 windows-1251 x-cp1251"),
  (.singleByte Table.windows1252,
    "ansi_x3.4-1968 ascii cp1252 cp819 csisolatin1 ibm819 iso-8859-1 iso-ir-100 iso8859-1 " ++
    "iso88591 iso_8859-1 iso_8859-1:1987 l1 latin1 us-ascii windows-1252 x-cp1252"),
  (.singleByte Table.windows1253, "cp1253 windows-1253 x-cp1253"),
  (.singleByte Table.windows1254,
    "cp1254 csisolatin5 iso-8859-9 iso-ir-148 iso8859-9 iso88599 iso_8859-9 " ++
    "iso_8859-9:1989 l5 latin5 windows-1254 x-cp1254"),
  (.singleByte Table.windows1255, "cp1255 windows-1255 x-cp1255"),
  (.singleByte Table.windows1256, "cp1256 windows-1256 x-cp1256"),
  (.singleByte Table.windows1257, "cp1257 windows-1257 x-cp1257"),
  (.singleByte Table.windows1258, "cp1258 windows-1258 x-cp1258"),
  (.singleByte Table.macCyrillic, "x-mac-cyrillic x-mac-ukrainian"),
  (.singleByte privateUse, "x-user-defined"),
  (.replacement, "csiso2022kr hz-gb-2312 iso-2022-cn iso-2022-cn-ext iso-2022-kr replacement"),
  (.utf16 true, "unicodefffe utf-16be"),
  (.utf16 false, "csunicode iso-10646-ucs-2 ucs-2 unicode unicodefeff utf-16 utf-16le")]

def isAsciiBlank (c : Char) : Bool :=
  c == ' ' || c == '\t' || c == '\n' || c == '\x0c' || c == '\r'

/-- A label as it is compared: without blanks around it, and in lower case. -/
def fold (label : String) : String :=
  let cs := label.toList.dropWhile isAsciiBlank
  String.ofList ((cs.reverse.dropWhile isAsciiBlank).reverse.map Char.toLower)

def ofLabel? (label : String) : Option Charset :=
  let folded := fold label
  (labels.find? fun x => (x.2.splitOn " ").contains folded).map (·.1)

/-- Units of sixteen bits; an octet left over at the end is no unit. -/
def units (bigEndian : Bool) (done : List (Option Nat)) : List UInt8 → List (Option Nat)
  | a :: b :: s =>
    let unit := if bigEndian then a.toNat * 256 + b.toNat else b.toNat * 256 + a.toNat
    units bigEndian (some unit :: done) s
  | [_] => (none :: done).reverse
  | [] => done.reverse

def isHigh (n : Nat) : Bool := 0xD800 ≤ n && n < 0xDC00
def isLow (n : Nat) : Bool := 0xDC00 ≤ n && n < 0xE000

/-- The characters of UTF-16 units. A surrogate without its partner is ill-formed, and so is the
end of a text in the middle of a character. -/
def joinUnits (done : List Char) : List (Option Nat) → List Char
  | some n :: some m :: s =>
    if isHigh n && isLow m then
      joinUnits (Char.ofNat (0x10000 + (n - 0xD800) * 0x400 + (m - 0xDC00)) :: done) s
    else
      joinUnits ((if isHigh n || isLow n then '\uFFFD' else Char.ofNat n) :: done) (some m :: s)
  | [some n, none] =>
    if isHigh n then ('\uFFFD' :: done).reverse
    else ('\uFFFD' :: (if isLow n then '\uFFFD' else Char.ofNat n) :: done).reverse
  | some n :: s => joinUnits ((if isHigh n || isLow n then '\uFFFD' else Char.ofNat n) :: done) s
  | none :: s => joinUnits ('\uFFFD' :: done) s
  | [] => done.reverse
  termination_by s => s.length

/-- The text in this set, no mark expected. -/
def decodeBody : Charset → List UInt8 → String
  | utf8, s => Utf8.lossy s
  | utf16 bigEndian, s => String.ofList (joinUnits [] (units bigEndian [] s))
  | singleByte upper, s =>
    let table := upper.toList.toArray
    String.ofList (s.map fun b =>
      if b < 0x80 then Char.ofNat b.toNat else table.getD (b.toNat - 0x80) '\uFFFD')
  | replacement, s => if s = [] then "" else "\uFFFD"

/-- The set that a mark at the front tells, and the text behind it. -/
def ofMark? : List UInt8 → Option (Charset × List UInt8)
  | 0xEF :: 0xBB :: 0xBF :: s => some (utf8, s)
  | 0xFE :: 0xFF :: s => some (utf16 true, s)
  | 0xFF :: 0xFE :: s => some (utf16 false, s)
  | _ => none

def decode (c : Charset) (s : List UInt8) : String :=
  match ofMark? s with
  | some (marked, rest) => marked.decodeBody rest
  | none => c.decodeBody s

end Charset

end ImageGateway.Text
