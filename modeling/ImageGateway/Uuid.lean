/-!
Random identifiers in the form of version 4: 128 bits of which six are fixed, written in lower
case with hyphens. The bits are a number that the caller draws.
-/

namespace ImageGateway.Uuid

def hexDigit (n : Nat) : Char := Char.ofNat (if n % 16 < 10 then 48 + n % 16 else 87 + n % 16)

/-- `k` hexadecimal digits of a number, the most significant first. -/
def hexDigits : Nat → Nat → List Char
  | 0, _ => []
  | k + 1, n => hexDigits k (n / 16) ++ [hexDigit n]

/-- The identifier whose free bits come from `n`. -/
def v4 (n : Nat) : String :=
  let group (shift width : Nat) := hexDigits width (n >>> (4 * shift))
  String.ofList (group 24 8 ++ '-' :: group 20 4 ++ '-' :: '4' :: group 17 3 ++
    '-' :: hexDigit (8 + (n >>> 64) % 4) :: group 13 3 ++ '-' :: group 0 12)

end ImageGateway.Uuid
