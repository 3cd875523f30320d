import ImageGateway.Text.Utf8

/-!
Percent escapes: a percent sign and two hexadecimal digits stand for an octet. A percent sign
without them stands for itself.
-/

namespace ImageGateway.Text.Percent

def hexValue? (b : UInt8) : Option Nat :=
  let n := b.toNat
  if 0x30 ≤ n ∧ n ≤ 0x39 then some (n - 0x30)
  else if 0x41 ≤ n ∧ n ≤ 0x46 then some (n - 0x37)
  else if 0x61 ≤ n ∧ n ≤ 0x66 then some (n - 0x57)
  else none

/-- The octet that two hexadecimal digits spell. -/
def octet? (a b : UInt8) : Option UInt8 := do
  return UInt8.ofNat ((← hexValue? a) * 16 + (← hexValue? b))

def decode : List UInt8 → List UInt8
  | 0x25 :: a :: b :: s =>
    match octet? a b with
    | some o => o :: decode s
    | none => 0x25 :: decode (a :: b :: s)
  | b :: s => b :: decode s
  | [] => []
  termination_by s => s.length

end ImageGateway.Text.Percent
