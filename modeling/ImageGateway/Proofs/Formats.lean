import ImageGateway.Proofs.OutputPath
import ImageGateway.Proofs.Uploads

/-!
The formats of images, as they are told in three places. The content of an upload announces one of
them by its first octets (`Suffix.ofContent?_eq_some_iff`); where it announces none, the name of the
file is read just as the name of an input is (`Suffix.detect_eq_ok_iff`); and the media type of a
file goes by the last dot of its name, which is the dot of the suffix unless nothing stands before
it (`mediaTypeOf_append`). In the name of an output the mark stands before it.
-/

namespace ImageGateway

variable {s t : Suffix} {data : Bytes} {path name output : String}

/-! ## Content -/

namespace Suffix

/-- The octets that images of a format begin with, by the suffix that they are given. -/
def signatures : Suffix → List Bytes
  | .jpg => [[0xFF, 0xD8, 0xFF]]
  | .jpeg => []
  | .png => [[0x89, 0x50, 0x4E, 0x47, 0x0D, 0x0A, 0x1A, 0x0A]]
  | .tif => [[0x49, 0x49, 0x2A, 0x00], [0x4D, 0x4D, 0x00, 0x2A]]

/-- The content begins like an image of the format. -/
def Announced (s : Suffix) (data : Bytes) : Prop := ∃ signature ∈ s.signatures, signature <+: data

/-- No content begins like images of two formats. -/
theorem Announced.unique (hs : s.Announced data) (ht : t.Announced data) : s = t := by
  obtain ⟨x, hx, px⟩ := hs
  obtain ⟨y, hy, py⟩ := ht
  have comparable : x <+: y ∨ y <+: x := List.prefix_or_prefix_of_prefix px py
  have apart : ∀ s t : Suffix, ∀ x ∈ s.signatures, ∀ y ∈ t.signatures,
      x <+: y ∨ y <+: x → s = t := by
    intro s t
    cases s <;> cases t <;> decide
  exact apart s t x hx y hy comparable

theorem announced_of_ofContent? (h : ofContent? data = some s) : s.Announced data := by
  rw [ofContent?] at h
  split at h
  · rename_i png
    cases h
    exact ⟨_, List.mem_singleton_self _, List.isPrefixOf_iff_prefix.1 png⟩
  · split at h
    · rename_i jpg
      cases h
      exact ⟨_, List.mem_singleton_self _, List.isPrefixOf_iff_prefix.1 jpg⟩
    · split at h
      · rename_i tif
        cases h
        rcases Bool.or_eq_true_iff.1 tif with little | big
        · exact ⟨_, List.mem_cons_self, List.isPrefixOf_iff_prefix.1 little⟩
        · exact ⟨_, List.mem_cons_of_mem _ (List.mem_singleton_self _),
            List.isPrefixOf_iff_prefix.1 big⟩
      · cases h

theorem not_announced_of_ofContent? (h : ofContent? data = none) : ¬ s.Announced data := by
  rintro ⟨x, hx, px⟩
  have begins := List.isPrefixOf_iff_prefix.2 px
  rw [ofContent?] at h
  split at h
  · cases h
  · split at h
    · cases h
    · split at h
      · cases h
      · rename_i png jpg tif
        rw [Bool.or_eq_true, not_or] at tif
        cases s <;> simp only [signatures, List.mem_cons, List.not_mem_nil, or_false] at hx
        · exact jpg (hx ▸ begins)
        · exact png (hx ▸ begins)
        · rcases hx with rfl | rfl
          · exact tif.1 begins
          · exact tif.2 begins

/-- The format found by the content is the one that it announces. -/
theorem ofContent?_eq_some_iff : ofContent? data = some s ↔ s.Announced data := by
  refine ⟨announced_of_ofContent?, fun h => ?_⟩
  cases hd : ofContent? data with
  | none => exact absurd h (not_announced_of_ofContent? hd)
  | some t => rw [(announced_of_ofContent? hd).unique h]

theorem ofContent?_eq_none_iff : ofContent? data = none ↔ ∀ s : Suffix, ¬ s.Announced data := by
  refine ⟨fun h _ => not_announced_of_ofContent? h, fun h => ?_⟩
  cases hd : ofContent? data with
  | none => rfl
  | some s => exact absurd (announced_of_ofContent? hd) (h s)

theorem detect_of_announced (h : s.Announced data) (fileName : Option String) :
    detect data fileName = .ok s := by
  rw [detect, ofContent?_eq_some_iff.2 h]

/-- Without a format that is announced, the name of the file decides. -/
theorem detect_eq_ok_iff (h : ∀ s : Suffix, ¬ s.Announced data) :
    detect data (some name) = .ok s ↔ s.Ends name := by
  rw [detect, ofContent?_eq_none_iff.2 h, ← of?_eq_some_iff]
  simp only [Option.getD_some]
  cases of? name with
  | none => exact ⟨nofun, nofun⟩
  | some t => rw [Except.ok.injEq, Option.some.injEq]

theorem detect_of_no_suffix (h : ∀ s : Suffix, ¬ s.Announced data)
    (hn : ∀ s : Suffix, ¬ s.Ends name) :
    detect data (some name) = .error (.unsupportedFormat name) := by
  rw [detect, ofContent?_eq_none_iff.2 h]
  simp only [Option.getD_some, of?_eq_none_iff.2 hn]

theorem detect_none (data : Bytes) : detect data none = detect data (some "") := rfl

/-- The dot of a suffix is its first character and its only dot. -/
theorem exists_text_eq (s : Suffix) :
    ∃ ext : String, s.text.toList = '.' :: ext.toList ∧ '.' ∉ ext.toList := by
  cases s with
  | jpg => exact ⟨"jpg", by decide⟩
  | jpeg => exact ⟨"jpeg", by decide⟩
  | png => exact ⟨"png", by decide⟩
  | tif => exact ⟨"tif", by decide⟩

end Suffix

/-! ## Media types -/

theorem isName_append (h : '/' ∉ name.toList) (s : Suffix) : Path.IsName (name ++ s.text) := by
  have long : 2 < s.text.toList.length := by cases s <;> simp [Suffix.text]
  refine Path.isName_of_length ?_ ?_
  · rw [String.toList_append, List.mem_append]
    exact not_or_intro h s.slash_notMem_text
  · rw [String.toList_append, List.length_append]
    omega

/-- A suffix decides the media type, unless it is the whole name in its directory. -/
theorem mediaTypeOf_append (stem : String) (s : Suffix) : mediaTypeOf (stem ++ s.text) =
    if stem = Path.directory stem then "application/octet-stream" else s.mediaType := by
  obtain ⟨x, hx, hstem⟩ := Path.exists_eq_directory_append stem
  have same : Path.directory (stem ++ s.text) = Path.directory stem :=
    Path.directory_append s.slash_notMem_text
  have named : Path.fileName? (stem ++ s.text) = some (x ++ s.text) := by
    refine (isName_append hx s).fileName?_directory ?_
    rw [same, ← String.append_assoc, ← hstem]
  by_cases hidden : x = ""
  · subst hidden
    rw [String.append_empty] at hstem
    obtain ⟨ext, htext, dotless⟩ := s.exists_text_eq
    rw [String.empty_append] at named
    rw [if_pos hstem, mediaTypeOf, Path.extension?_of_hidden named htext dotless]
  · have more : stem ≠ Path.directory stem := by
      intro h
      have text := congrArg String.toList hstem
      rw [← h, String.toList_append, List.self_eq_append_right] at text
      exact hidden (String.toList_eq_nil_iff.1 text)
    rw [if_neg more, mediaTypeOf_of_fileName named hidden]

theorem Suffix.mediaType_ne (s : Suffix) : s.mediaType ≠ "application/octet-stream" := by
  cases s <;> decide

/-- Before the suffix of an output stands the mark, so its media type is that of an image. -/
theorem mediaTypeOf_outputPath (h : outputPath path = .ok output) :
    ∃ s : Suffix, s.Ends output ∧ mediaTypeOf output = s.mediaType := by
  obtain ⟨stem, s, -, rfl⟩ := outputPath_eq_ok_iff.1 h
  have marked : stem ++ outputMark ≠ Path.directory (stem ++ outputMark) := by
    intro hd
    obtain ⟨x, -, hstem⟩ := Path.exists_eq_directory_append stem
    rw [Path.directory_append (by decide)] at hd
    have length := congrArg (·.toList.length) hd
    have length' := congrArg (·.toList.length) hstem
    have mark : 0 < outputMark.toList.length := by decide
    simp only [String.toList_append, List.length_append] at length length'
    omega
  exact ⟨s, s.ends_append _, by rw [mediaTypeOf_append, if_neg marked]⟩

/-! ## The three together -/

theorem exists_outputPath_ends_iff : (∃ output, outputPath name = .ok output ∧ s.Ends output) ↔
    s.Ends name := by
  constructor
  · rintro ⟨output, ho, hs⟩
    exact (ends_of_outputPath ho).1 hs
  · intro hs
    obtain ⟨output, ho⟩ := exists_outputPath_iff.2 ⟨s, hs⟩
    exact ⟨output, ho, (ends_of_outputPath ho).2 hs⟩

/-- The three ways in which a format is told agree. The suffix that is found for an upload makes
the name of an input of any identifier in any directory, and the output has it, too. The first
octets decide if they announce a format, whatever the name of the file is. If they announce none,
the name is accepted with the suffix with which it is accepted for an input, and refused by the
same failure; no name counts as the empty one. And the media type of an output is the one of its
suffix, also where the input has none because its name is nothing but the suffix. -/
theorem formats_agree :
    (∀ (data : Bytes) (fileName : Option String) (s : Suffix),
      Suffix.detect data fileName = .ok s → ∀ dir id : String,
        ∃ output, outputPath (Path.join dir (id ++ s.text)) = .ok output ∧
          output = Path.join dir (id ++ outputMark ++ s.text) ∧ s.Ends output) ∧
    (∀ (data : Bytes) (s : Suffix), s.Announced data →
      ∀ fileName, Suffix.detect data fileName = .ok s) ∧
    (∀ data : Bytes, (∀ s : Suffix, ¬ s.Announced data) →
      (∀ (name : String) (s : Suffix), Suffix.detect data (some name) = .ok s ↔
        ∃ output, outputPath name = .ok output ∧ s.Ends output) ∧
      (∀ name : String, (∀ s : Suffix, Suffix.detect data (some name) ≠ .ok s) →
        Suffix.detect data (some name) = .error (.unsupportedFormat name) ∧
          outputPath name = .error (.unsupportedFormat name)) ∧
      Suffix.detect data none = Suffix.detect data (some "")) ∧
    (∀ path output : String, outputPath path = .ok output →
      ∃ s : Suffix, s.Ends output ∧ mediaTypeOf output = s.mediaType ∧
        mediaTypeOf output ≠ "application/octet-stream") ∧
    (∀ (stem : String) (s : Suffix), mediaTypeOf (stem ++ s.text) =
      if stem = Path.directory stem then "application/octet-stream" else s.mediaType) := by
  refine ⟨fun _ _ s _ dir id => ?_, fun _ _ => Suffix.detect_of_announced, fun data none => ?_,
    fun path output h => ?_, mediaTypeOf_append⟩
  · have output := outputPath_join dir id s
    refine ⟨_, output, rfl, (ends_of_outputPath output).2 ?_⟩
    rw [Path.join_append s.not_isAbsolute_text]
    exact s.ends_append _
  · refine ⟨fun name s => ?_, fun name refused => ?_, Suffix.detect_none data⟩
    · rw [Suffix.detect_eq_ok_iff none, exists_outputPath_ends_iff]
    · have unsuffixed (s : Suffix) : ¬ s.Ends name := fun hs =>
        refused s ((Suffix.detect_eq_ok_iff none).2 hs)
      exact ⟨Suffix.detect_of_no_suffix none unsuffixed, outputPath_of_no_suffix unsuffixed⟩
  · obtain ⟨s, hs, media⟩ := mediaTypeOf_outputPath h
    exact ⟨s, hs, media, media ▸ s.mediaType_ne⟩

/-- A name that is nothing but a suffix in its directory, for content that announces nothing and
for content that announces another format. -/
theorem hidden_name_formats :
    outputPath "dir/.tif" = .ok "dir/_KAI.tif" ∧ Suffix.detect [1] (some "dir/.tif") = .ok .tif ∧
    Suffix.detect [0xFF, 0xD8, 0xFF, 0] (some "dir/.tif") = .ok .jpg ∧
    mediaTypeOf "dir/.tif" = "application/octet-stream" ∧
    mediaTypeOf "dir/_KAI.tif" = "image/tiff" := by
  obtain ⟨-, announced, unannounced, outputs, media⟩ := formats_agree
  have output : outputPath "dir/.tif" = .ok "dir/_KAI.tif" := by decide
  have nothing (s : Suffix) : ¬ s.Announced [1] := by
    cases s <;> simp [Suffix.Announced, Suffix.signatures]
  have tif : Suffix.tif.Ends "dir/_KAI.tif" := by decide
  obtain ⟨s, hs, type, -⟩ := outputs _ _ output
  cases hs.unique tif
  refine ⟨output, ((unannounced [1] nothing).1 _ .tif).2 ⟨_, output, tif⟩, ?_, ?_, type⟩
  · exact announced _ .jpg ⟨_, List.mem_singleton_self _, by decide⟩ _
  · exact (media "dir/" .tif).trans (if_pos (by decide))

end ImageGateway
