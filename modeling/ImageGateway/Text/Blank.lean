/-!
White space as the Unicode property `White_Space` has it, and the trimming that goes by it.
U+200B, U+FEFF and U+001C to U+001F are not in the property, so they survive a trim.
-/

namespace ImageGateway.Text

/-- The twenty-five characters of `White_Space`. -/
def isBlankChar (c : Char) : Bool :=
  let n := c.toNat
  (0x09 ≤ n && n ≤ 0x0D) || n == 0x20 || n == 0x85 || n == 0xA0 || n == 0x1680 ||
    (0x2000 ≤ n && n ≤ 0x200A) || n == 0x2028 || n == 0x2029 || n == 0x202F || n == 0x205F ||
    n == 0x3000

/-- Every character is white space; the empty text is blank. -/
def isBlank (s : String) : Bool := s.toList.all isBlankChar

/-- Drops the white space at the end of a list of characters. -/
def dropBlankEnd (cs : List Char) : List Char :=
  (cs.reverse.dropWhile isBlankChar).reverse

def trimEnd (s : String) : String := String.ofList (dropBlankEnd s.toList)

def trim (s : String) : String :=
  String.ofList (dropBlankEnd (s.toList.dropWhile isBlankChar))

theorem isBlank_iff {s : String} : isBlank s = true ↔ ∀ c ∈ s.toList, isBlankChar c = true := by
  simp [isBlank]

/-- The character at which dropping stops is not blank. -/
theorem not_isBlankChar_of_getLast? {cs : List Char} {c : Char}
    (h : (dropBlankEnd cs).getLast? = some c) : isBlankChar c = false := by
  have stop := List.head?_dropWhile_not isBlankChar cs.reverse
  rw [dropBlankEnd, List.getLast?_reverse] at h
  simpa [h] using stop

/-- `t` is `s` without the white space at its end. -/
structure IsTrimEnd (s t : String) : Prop where
  dropped : ∃ blank, s = t ++ blank ∧ isBlank blank = true
  stops : ∀ c, t.toList.getLast? = some c → isBlankChar c = false

theorem isTrimEnd_trimEnd (s : String) : IsTrimEnd s (trimEnd s) where
  dropped := by
    refine ⟨String.ofList (s.toList.reverse.takeWhile isBlankChar).reverse, ?_, ?_⟩
    · apply String.toList_inj.1
      simp only [trimEnd, dropBlankEnd, String.toList_append, String.toList_ofList,
        ← List.reverse_append, List.takeWhile_append_dropWhile, List.reverse_reverse]
    · simp only [isBlank, String.toList_ofList, List.all_reverse, List.all_takeWhile]
  stops c h := not_isBlankChar_of_getLast? (by simpa [trimEnd] using h)

end ImageGateway.Text
