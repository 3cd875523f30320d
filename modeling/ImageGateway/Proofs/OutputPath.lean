import ImageGateway.Proofs.Path
import ImageGateway.Proofs.Request
import ImageGateway.Proofs.Text.Utf8

/-!
The name of an output. A name that ends in one of the four suffixes is made of a stem and that
suffix in one way only, and its output has the mark between the two (`outputPath_eq_ok_iff`). So
the output lies in the same directory, is again the name of an image, and belongs to no other input
(`outputPath_inj`), and no number of runs, each on the output of the one before, comes back to a
name that was there before (`outputAfter_ne`).
-/

namespace ImageGateway

variable {s : Suffix} {path path' output : String} {m n : Nat}

/-! ## Names with a suffix -/

namespace Suffix

theorem ends_iff : s.Ends path ↔ ∃ stem, path = stem ++ s.text := by
  constructor
  · rintro ⟨front, hfront⟩
    refine ⟨String.ofList front, String.toList_inj.1 ?_⟩
    rw [String.toList_append, String.toList_ofList, hfront]
  · rintro ⟨stem, rfl⟩
    exact s.ends_append stem

theorem exists_ends_iff : (∃ s : Suffix, s.Ends path) ↔
    ∃ text ∈ [".jpg", ".jpeg", ".png", ".tif"], text.toList <:+ path.toList := by
  constructor
  · rintro ⟨s, hs⟩
    refine ⟨s.text, ?_, hs⟩
    cases s <;> simp [text]
  · rintro ⟨t, ht, hp⟩
    simp only [List.mem_cons, List.not_mem_nil, or_false] at ht
    rcases ht with rfl | rfl | rfl | rfl
    · exact ⟨.jpg, hp⟩
    · exact ⟨.jpeg, hp⟩
    · exact ⟨.png, hp⟩
    · exact ⟨.tif, hp⟩

theorem ascii_text (s : Suffix) : Text.Utf8.Ascii s.text.toList := by
  cases s <;> simp [Text.Utf8.Ascii, text]

theorem slash_notMem_text (s : Suffix) : '/' ∉ s.text.toList := by
  cases s <;> simp [text]

theorem not_isAbsolute_text (s : Suffix) : Path.isAbsolute s.text = false := by
  cases s <;> decide

/-- A name ends in a suffix just if the octets of the name end in those of the suffix. -/
theorem ends_iff_octets :
    s.Ends path ↔ Text.Utf8.encode s.text <:+ Text.Utf8.encode path :=
  (Text.Utf8.encode_suffix_iff s.ascii_text).symm

/-- The suffix that is found does not depend on the order in which they are tried. -/
theorem find?_of_ends {order : List Suffix} (hs : s ∈ order) (h : s.Ends path) :
    order.find? (·.Ends path) = some s := by
  cases hf : order.find? (·.Ends path) with
  | none => exact absurd (decide_eq_true h) (List.find?_eq_none.1 hf s hs)
  | some t =>
    have ht : t.Ends path := by simpa using List.find?_some hf
    rw [h.unique ht]

/-- Where a suffix at the end of a name begins, in octets. -/
def offset (s : Suffix) (path : String) : String.Pos.Raw :=
  ⟨octetLength path - octetLength s.text⟩

theorem offset_append (s : Suffix) (stem : String) :
    s.offset (stem ++ s.text) = stem.rawEndPos := by
  rw [offset, octetLength, octetLength, String.utf8ByteSize_append, Nat.add_sub_cancel]
  rfl

theorem isValid_offset (s : Suffix) (stem : String) :
    (s.offset (stem ++ s.text)).IsValid (stem ++ s.text) :=
  String.Pos.Raw.isValid_iff_exists_append.2 ⟨stem, s.text, rfl, s.offset_append stem⟩

end Suffix

/-! ## Outputs -/

theorem outputPath_eq_ok_iff : outputPath path = .ok output ↔
    ∃ (stem : String) (s : Suffix), path = stem ++ s.text ∧
      output = stem ++ outputMark ++ s.text := by
  constructor
  · intro h
    cases hs : Suffix.of? path with
    | none =>
      rw [outputPath, hs] at h
      cases h
    | some s =>
      obtain ⟨stem, rfl⟩ := Suffix.ends_iff.1 (Suffix.ends_of_of? hs)
      rw [outputPath_append] at h
      exact ⟨stem, s, rfl, (Except.ok.inj h).symm⟩
  · rintro ⟨stem, s, rfl, rfl⟩
    exact outputPath_append stem s

theorem outputPath_of_no_suffix (h : ∀ s : Suffix, ¬ s.Ends path) :
    outputPath path = .error (.unsupportedFormat path) := by
  rw [outputPath, Suffix.of?_eq_none_iff.2 h]

theorem exists_outputPath_iff : (∃ output, outputPath path = .ok output) ↔
    ∃ s : Suffix, s.Ends path := by
  simp only [outputPath_eq_ok_iff, Suffix.ends_iff]
  constructor
  · rintro ⟨-, stem, s, hp, -⟩
    exact ⟨s, stem, hp⟩
  · rintro ⟨s, stem, hp⟩
    exact ⟨_, stem, s, hp, rfl⟩

/-- The output has the suffix of the input. -/
theorem ends_of_outputPath (h : outputPath path = .ok output) : s.Ends output ↔ s.Ends path := by
  obtain ⟨stem, t, rfl, rfl⟩ := outputPath_eq_ok_iff.1 h
  constructor
  · intro hs
    rw [hs.unique (t.ends_append _)]
    exact t.ends_append stem
  · intro hs
    rw [hs.unique (t.ends_append _)]
    exact t.ends_append _

/-- No two inputs have the same output. -/
theorem outputPath_inj (h : outputPath path = .ok output) (h' : outputPath path' = .ok output) :
    path = path' := by
  obtain ⟨stem, s, rfl, ho⟩ := outputPath_eq_ok_iff.1 h
  obtain ⟨stem', s', rfl, ho'⟩ := outputPath_eq_ok_iff.1 h'
  have same : s = s' := by
    have hs : s.Ends output := ho ▸ s.ends_append _
    exact hs.unique (ho' ▸ s'.ends_append _)
  subst same
  have stems : stem = stem' := by
    rw [ho, String.append_assoc, String.append_assoc] at ho'
    exact (String.append_left_inj _).1 ho'
  rw [stems]

theorem directory_outputPath (h : outputPath path = .ok output) :
    Path.directory output = Path.directory path := by
  obtain ⟨stem, s, rfl, rfl⟩ := outputPath_eq_ok_iff.1 h
  have mark : '/' ∉ outputMark.toList := by decide
  rw [Path.directory_append s.slash_notMem_text, Path.directory_append s.slash_notMem_text,
    Path.directory_append mark]

/-- A file in a directory under an identifier and a suffix has its output there, too. -/
theorem outputPath_join (dir id : String) (s : Suffix) :
    outputPath (Path.join dir (id ++ s.text)) =
      .ok (Path.join dir (id ++ outputMark ++ s.text)) := by
  have mark : Path.isAbsolute outputMark = false := by decide
  rw [Path.join_append s.not_isAbsolute_text, Path.join_append s.not_isAbsolute_text,
    Path.join_append mark, outputPath_append]

/-! ## Outputs of outputs -/

/-- The name after so many runs, each on the output of the one before. -/
def outputAfter : Nat → String → Except Failure String
  | 0, path => .ok path
  | n + 1, path => outputPath path >>= outputAfter n

/-- Each run makes the name longer by the mark. -/
theorem outputAfter_append (n : Nat) (stem : String) (s : Suffix) :
    ∃ output, outputAfter n (stem ++ s.text) = .ok output ∧
      octetLength output = octetLength (stem ++ s.text) + n * octetLength outputMark := by
  induction n generalizing stem with
  | zero => exact ⟨_, rfl, by rw [Nat.zero_mul, Nat.add_zero]⟩
  | succ n ih =>
    obtain ⟨output, hout, length⟩ := ih (stem ++ outputMark)
    refine ⟨output, ?_, ?_⟩
    · rw [outputAfter, outputPath_append]
      exact hout
    · rw [length]
      simp only [octetLength, String.utf8ByteSize_append, Nat.succ_mul]
      omega

theorem outputAfter_ne (h : s.Ends path) (hmn : m < n) :
    ∃ early late, outputAfter m path = .ok early ∧ outputAfter n path = .ok late ∧
      early ≠ late := by
  obtain ⟨stem, rfl⟩ := Suffix.ends_iff.1 h
  obtain ⟨early, hearly, shorter⟩ := outputAfter_append m stem s
  obtain ⟨late, hlate, longer⟩ := outputAfter_append n stem s
  refine ⟨early, late, hearly, hlate, ?_⟩
  rintro rfl
  have mark : 0 < octetLength outputMark := by decide
  have := Nat.mul_lt_mul_of_pos_right hmn mark
  omega

/-- The output of an image lies beside it, and nothing else is its output. A name is accepted just
if it ends in one of four suffixes, case included. Then it ends in no other of them, in whatever
order they are tried; the suffix is cut off between two characters, also where characters take
several octets; and the output is the name with the mark between its stem and its suffix. It is
another name in the same directory with the same suffix, and is accepted in turn. Any other name is
refused, and the refusal names it. Different names have different outputs, and outputs of outputs
never come back to an earlier name. -/
theorem outputPath_marks_stem (path : String) :
    ((∃ output, outputPath path = .ok output) ↔
      ∃ text ∈ [".jpg", ".jpeg", ".png", ".tif"], text.toList <:+ path.toList) ∧
    (∀ s : Suffix, s.Ends path ↔ Text.Utf8.encode s.text <:+ Text.Utf8.encode path) ∧
    (∀ s : Suffix, s.Ends path →
      (∀ t : Suffix, t.Ends path → t = s) ∧
      (∀ order : List Suffix, s ∈ order → order.find? (·.Ends path) = some s) ∧
      (s.offset path).IsValid path ∧
      ∃ stem output, stem.rawEndPos = s.offset path ∧ path = stem ++ s.text ∧
        outputPath path = .ok output ∧ output = stem ++ "_KAI" ++ s.text ∧
        s.Ends output ∧ (∃ next, outputPath output = .ok next) ∧
        Path.directory output = Path.directory path ∧ output ≠ path) ∧
    ((∀ s : Suffix, ¬ s.Ends path) → outputPath path = .error (.unsupportedFormat path)) ∧
    (∀ path' output, outputPath path = .ok output → outputPath path' = .ok output →
      path = path') ∧
    ((∃ s : Suffix, s.Ends path) → ∀ m n, m < n →
      ∃ early late, outputAfter m path = .ok early ∧ outputAfter n path = .ok late ∧
        early ≠ late) := by
  refine ⟨exists_outputPath_iff.trans Suffix.exists_ends_iff, fun s => Suffix.ends_iff_octets,
    fun s hs => ?_, outputPath_of_no_suffix, fun path' output h h' => outputPath_inj h h',
    fun ⟨s, hs⟩ m n hmn => outputAfter_ne hs hmn⟩
  refine ⟨fun t ht => ht.unique hs, fun order ho => Suffix.find?_of_ends ho hs, ?_⟩
  obtain ⟨stem, rfl⟩ := Suffix.ends_iff.1 hs
  have output := outputPath_append stem s
  have ends : s.Ends (stem ++ outputMark ++ s.text) := s.ends_append _
  refine ⟨s.isValid_offset stem, stem, _, (s.offset_append stem).symm, rfl, output, rfl, ends,
    exists_outputPath_iff.2 ⟨s, ends⟩, directory_outputPath output, ?_⟩
  -- one run, as against none
  obtain ⟨early, late, hearly, hlate, different⟩ := outputAfter_ne hs Nat.zero_lt_one
  cases hearly
  rw [outputAfter, output] at hlate
  cases hlate
  exact different.symm

/-- A name with suffixes and a mark within, and characters of several octets. -/
def markedName : String := "é.png/ß.jpg_KAI.jpeg"

theorem markedName_marked : outputPath markedName = .ok "é.png/ß.jpg_KAI_KAI.jpeg" ∧
    Path.directory "é.png/ß.jpg_KAI_KAI.jpeg" = Path.directory markedName ∧
    ∃ early late, outputAfter 1 markedName = .ok early ∧ outputAfter 3 markedName = .ok late ∧
      early ≠ late := by
  have ends : Suffix.jpeg.Ends markedName := by decide
  have marked : outputPath markedName = .ok "é.png/ß.jpg_KAI_KAI.jpeg" := by decide
  obtain ⟨-, -, found, -, -, further⟩ := outputPath_marks_stem markedName
  obtain ⟨-, -, -, stem, output, -, -, houtput, -, -, -, directory, -⟩ := found .jpeg ends
  cases marked.symm.trans houtput
  exact ⟨marked, directory, further ⟨.jpeg, ends⟩ 1 3 (by decide)⟩

end ImageGateway
