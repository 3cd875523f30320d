import ImageGateway.Files.Basic
import ImageGateway.Text.Utf8

/-!
Shell text. The shell works on octets and does not know characters beyond ASCII, so its strings
hold one character below 256 for each octet.
-/

namespace ImageGateway.Shell

/-- The octets of a shell string. -/
def octets (s : String) : Bytes := s.toList.map fun c => UInt8.ofNat c.toNat

/-- Octets as a shell string. -/
def ofOctets (bs : Bytes) : String := String.ofList (bs.map fun b => Char.ofNat b.toNat)

/-- A text as the shell sees it. -/
def ofText (s : String) : String := ofOctets (Text.Utf8.encode s)

/-- The text that a shell string spells, for names of files. -/
def toText (s : String) : String := Text.Utf8.lossy (octets s)

end ImageGateway.Shell
