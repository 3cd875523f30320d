import ImageGateway.Decimal.Shortest
import ImageGateway.Text.Quoted

/-!
Mismatches between a document and the shape it should have, for every format of document. The
formats differ only in how they lay out a floating-point number and in the spelling of nothing.
-/

namespace ImageGateway

/-- What stands in a document where something else is wanted. -/
inductive Found where
  | text (s : String)
  | integer (n : Int)
  /-- A floating-point number, by its written form. -/
  | float (written : String)
  | boolean (b : Bool)
  | null
  | map
  | sequence
  deriving DecidableEq, Repr

def Found.describe : Found → String
  | .text s => "string " ++ Text.quoted s
  | .integer n => s!"integer `{n}`"
  | .float written => s!"floating point `{written}`"
  | .boolean b => s!"boolean `{b}`"
  | .null => "null"
  | .map => "map"
  | .sequence => "sequence"

/-- The first way in which a document departs from the wanted shape. -/
inductive Mismatch where
  | missingField (name : String)
  | duplicateField (name : String)
  | wrongType (found : Found) (wanted : String)
  | wrongValue (found : Found) (wanted : String)
  | unknownVariant (name : String) (known : List String)
  /-- A list of fields ends too early. -/
  | tooShort (length : Nat) (wanted : String) (size : Nat)
  deriving DecidableEq, Repr

/-- Alternatives in the way of "`a` or `b`". -/
def alternatives (names : List String) : String :=
  match names with
  | [a, b] => s!"`{a}` or `{b}`"
  | _ => ", ".intercalate (names.map fun n => s!"`{n}`")

def Mismatch.message : Mismatch → String
  | .missingField name => s!"missing field `{name}`"
  | .duplicateField name => s!"duplicate field `{name}`"
  | .wrongType found wanted => s!"invalid type: {found.describe}, expected {wanted}"
  | .wrongValue found wanted => s!"invalid value: {found.describe}, expected {wanted}"
  | .unknownVariant name known => s!"unknown variant `{name}`, expected {alternatives known}"
  | .tooShort length wanted size =>
    s!"invalid length {length}, expected struct {wanted} with {size} " ++
      (if size = 1 then "element" else "elements")

end ImageGateway
