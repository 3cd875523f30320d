import ImageGateway.Proofs.Files.Making
import ImageGateway.Proofs.OutputPath
import ImageGateway.Uploads
import ImageGateway.Uuid
import Mathlib.Tactic.IntervalCases

/-!
The names of uploads and their way to disk. An identifier is 36 plain characters, so an upload has
a short name in the directory for uploads (`UploadStore.isName_name`), its suffix can be read off
again, and its output lies beside it (`UploadStore.outputPath_place`). No upload is named like
another upload with another identifier, or like any output (`UploadStore.name_inj`,
`UploadStore.name_ne_output`). It is stored in a directory that is made first, if it is missing
(`UploadStore.store_cases`).
-/

namespace ImageGateway

/-! ## Identifiers -/

namespace Uuid

def alphabet : List Char := "-0123456789abcdef".toList

def digits : List Char := "0123456789abcdef".toList

theorem digits_subset_alphabet : digits ⊆ alphabet := by decide

theorem hexDigit_mem (n : Nat) : hexDigit n ∈ digits := by
  have hn : n % 16 < 16 := Nat.mod_lt _ (by decide)
  rw [hexDigit]
  generalize n % 16 = k at hn
  interval_cases k <;> decide

theorem mem_of_mem_hexDigits {k n : Nat} {c : Char} (h : c ∈ hexDigits k n) : c ∈ digits := by
  induction k generalizing n with
  | zero => cases h
  | succ k ih =>
    rcases List.mem_append.1 h with h | h
    · exact ih h
    · rw [List.mem_singleton.1 h]
      exact hexDigit_mem n

theorem length_hexDigits (k n : Nat) : (hexDigits k n).length = k := by
  induction k generalizing n with
  | zero => rfl
  | succ k ih => rw [hexDigits, List.length_append, ih, List.length_singleton]

theorem mem_of_mem_v4 {n : Nat} {c : Char} (h : c ∈ (v4 n).toList) : c ∈ alphabet := by
  have hyphen : '-' ∈ alphabet := by decide
  have four : '4' ∈ alphabet := by decide
  simp only [v4, String.toList_ofList, List.mem_append, List.mem_cons, or_assoc] at h
  have digit {k m : Nat} (hc : c ∈ hexDigits k m) : c ∈ alphabet :=
    digits_subset_alphabet (mem_of_mem_hexDigits hc)
  rcases h with h | rfl | h | rfl | rfl | h | rfl | rfl | h | rfl | h
  · exact digit h
  · exact hyphen
  · exact digit h
  · exact hyphen
  · exact four
  · exact digit h
  · exact hyphen
  · exact digits_subset_alphabet (hexDigit_mem _)
  · exact digit h
  · exact hyphen
  · exact digit h

/-- A text in the form of an identifier of version 4: groups of lower case hexadecimal digits, the
third of which starts with the version and the fourth with the variant. -/
def IsV4 (id : String) : Prop := ∃ a b c v d e,
  id.toList = a ++ '-' :: b ++ '-' :: '4' :: c ++ '-' :: v :: d ++ '-' :: e ∧
    a.length = 8 ∧ b.length = 4 ∧ c.length = 3 ∧ d.length = 3 ∧ e.length = 12 ∧
    v ∈ ['8', '9', 'a', 'b'] ∧ ∀ x ∈ a ++ b ++ c ++ d ++ e, x ∈ digits

theorem variant_mem (n : Nat) : hexDigit (8 + n % 4) ∈ ['8', '9', 'a', 'b'] := by
  have hn : n % 4 < 4 := Nat.mod_lt _ (by decide)
  generalize n % 4 = k at hn
  interval_cases k <;> decide

theorem isV4_v4 (n : Nat) : IsV4 (v4 n) := by
  refine ⟨hexDigits 8 _, hexDigits 4 _, hexDigits 3 _, _, hexDigits 3 _, hexDigits 12 _,
    String.toList_ofList, length_hexDigits _ _, length_hexDigits _ _, length_hexDigits _ _,
    length_hexDigits _ _, length_hexDigits _ _, variant_mem _, fun x hx => ?_⟩
  simp only [List.mem_append] at hx
  rcases hx with (((hx | hx) | hx) | hx) | hx <;> exact mem_of_mem_hexDigits hx

theorem length_v4 (n : Nat) : (v4 n).toList.length = 36 := by
  simp [v4, length_hexDigits]

theorem notMem_v4 {n : Nat} {c : Char} (h : c ∉ alphabet) : c ∉ (v4 n).toList :=
  fun hc => h (mem_of_mem_v4 hc)

end Uuid

/-! ## Media types -/

/-- The media type of a file goes by its suffix. -/
theorem mediaTypeOf_of_fileName {path stem : String} {s : Suffix}
    (h : Path.fileName? path = some (stem ++ s.text)) (hs : stem ≠ "") :
    mediaTypeOf path = s.mediaType := by
  have ext (e : String) (he : s.text = "." ++ e) (hed : '.' ∉ e.toList) :
      Path.extension? path = some e :=
    Path.extension?_of_fileName h (by simp [he]) hs hed
  cases s with
  | jpg => rw [mediaTypeOf, ext "jpg" rfl (by decide)]; rfl
  | jpeg => rw [mediaTypeOf, ext "jpeg" rfl (by decide)]; rfl
  | png => rw [mediaTypeOf, ext "png" rfl (by decide)]; rfl
  | tif => rw [mediaTypeOf, ext "tif" rfl (by decide)]; rfl

/-! ## Uploads -/

namespace UploadStore

variable {s : UploadStore} {n m : Nat} {e f : Suffix}

/-- The name of an upload in its directory. -/
def name (n : Nat) (e : Suffix) : String := Uuid.v4 n ++ e.text

/-- The name of its output. -/
def outputName (n : Nat) (e : Suffix) : String := Uuid.v4 n ++ outputMark ++ e.text

theorem isName_of_append {x : String} (hx : '/' ∉ x.toList) : Path.IsName (Uuid.v4 n ++ x) := by
  refine Path.isName_of_length ?_ ?_
  · rw [String.toList_append, List.mem_append]
    exact not_or_intro (Uuid.notMem_v4 (by decide)) hx
  · rw [String.toList_append, List.length_append, Uuid.length_v4]
    omega

theorem isName_name (n : Nat) (e : Suffix) : Path.IsName (name n e) :=
  isName_of_append e.slash_notMem_text

theorem isName_outputName (n : Nat) (e : Suffix) : Path.IsName (outputName n e) := by
  rw [outputName, String.append_assoc]
  exact isName_of_append (by cases e <;> decide)

/-- A name that starts with an identifier is not too long, if not much follows. -/
theorem short_of_append {x : String} (hx : x.toList.length ≤ 20) :
    ¬ Path.maxName < octetLength (Uuid.v4 n ++ x) := by
  have h := Path.octetLength_le (Uuid.v4 n ++ x)
  rw [String.toList_append, List.length_append, Uuid.length_v4] at h
  rw [Path.maxName]
  omega

theorem short_name (n : Nat) (e : Suffix) : ¬ Path.maxName < octetLength (name n e) :=
  short_of_append (by cases e <;> decide)

theorem short_outputName (n : Nat) (e : Suffix) :
    ¬ Path.maxName < octetLength (outputName n e) := by
  rw [outputName, String.append_assoc]
  exact short_of_append (by cases e <;> decide)

theorem v4_inj {x y : String} (h : Uuid.v4 n ++ x = Uuid.v4 m ++ y) :
    Uuid.v4 n = Uuid.v4 m ∧ x = y := by
  have h := congrArg String.toList h
  rw [String.toList_append, String.toList_append] at h
  obtain ⟨h₁, h₂⟩ := List.append_inj h ((Uuid.length_v4 n).trans (Uuid.length_v4 m).symm)
  exact ⟨String.toList_inj.1 h₁, String.toList_inj.1 h₂⟩

theorem name_inj (h : name n e = name m f) : Uuid.v4 n = Uuid.v4 m := (v4_inj h).1

theorem outputName_inj (h : outputName n e = outputName m f) : Uuid.v4 n = Uuid.v4 m := by
  rw [outputName, outputName, String.append_assoc, String.append_assoc] at h
  exact (v4_inj h).1

/-- No upload is named like an output, whatever their suffixes. -/
theorem name_ne_output : name n e ≠ outputName m f := by
  intro h
  rw [name, outputName, String.append_assoc] at h
  have := (v4_inj h).2
  revert this
  cases e <;> cases f <;> decide

/-- The output of an upload lies beside it. -/
theorem outputPath_place (s : UploadStore) (n : Nat) (e : Suffix) :
    outputPath (s.place (Uuid.v4 n) e.text) = .ok (Path.join s.path (outputName n e)) :=
  outputPath_join s.path (Uuid.v4 n) e

section

variable {cwd : Place} {fs staged : Files} {id suffix path : String} {data : Bytes}
  {t : Trouble}

/-- The directory is known by an absolute path. -/
theorem isAbsolute_of_create {cwdPath asked : String} (hs : create cwdPath asked = .ok s)
    (hc : Path.isAbsolute cwdPath = true) : Path.isAbsolute s.path = true := by
  rw [create] at hs
  split at hs
  · rename_i hp
    cases hs
    exact Path.isAbsolute_of_absolute? hc hp
  · cases hs

theorem makeReady_of_isDir (ha : Path.isAbsolute s.path = true)
    (h : fs.isDir cwd s.path = true) : s.makeReady cwd fs = (fs, .ok ()) := by
  rw [makeReady, Files.makeDirAll, Files.makeDirs_of_isDir ha h]

theorem isDir_of_makeReady (ha : Path.isAbsolute s.path = true)
    (h : s.makeReady cwd fs = (staged, .ok ())) : staged.isDir cwd s.path = true := by
  rw [makeReady] at h
  split at h
  · rename_i hm
    cases h
    exact Files.isDir_of_makeDirs ha hm
  · cases h

/-- Making the directory ready only makes directories on the way to it. -/
theorem made_of_makeReady (ha : Path.isAbsolute s.path = true) {answer : Except Trouble Unit}
    (h : s.makeReady cwd fs = (staged, answer)) : Files.Made cwd s.path fs staged := by
  rw [makeReady] at h
  split at h <;> rename_i hm <;> cases h <;> exact Files.made_of_makeDirs ha hm

/-- A directory for uploads that could not be made cannot be made the next time either. -/
theorem makeReady_of_error (ha : Path.isAbsolute s.path = true)
    (h : s.makeReady cwd fs = (staged, .error t)) :
    ∃ t', s.makeReady cwd staged = (staged, .error t') := by
  rw [makeReady] at h
  split at h
  · cases h
  · rename_i hm
    cases h
    obtain ⟨e, he⟩ := Files.makeDirs_of_error ha hm
    rw [makeReady, Files.makeDirAll, he]
    exact ⟨_, rfl⟩

theorem write_cases {answer : Except Trouble String}
    (h : s.write cwd fs id suffix data = (staged, answer)) :
    (answer = .ok (s.place id suffix) ∧
      fs.write cwd (s.place id suffix) data = (staged, .ok ())) ∨
    ∃ e t, answer = .error t ∧ fs.write cwd (s.place id suffix) data = (staged, .error e) := by
  rw [write] at h
  split at h
  · cases h
    exact .inr ⟨_, _, rfl, by assumption⟩
  · cases h
    exact .inl ⟨rfl, by assumption⟩

theorem files_write (s : UploadStore) (cwd : Place) (fs : Files) (id suffix : String)
    (data : Bytes) :
    (s.write cwd fs id suffix data).1 = (fs.write cwd (s.place id suffix) data).1 := by
  rw [write]
  split <;> rename_i h <;> rw [h]

/-- The files change by the directory that is made ready, and by a file if it is. -/
theorem files_store (s : UploadStore) (cwd : Place) (fs : Files) (id suffix : String)
    (data : Bytes) :
    (s.store cwd fs id suffix data).1 = (s.makeReady cwd fs).1 ∨
      (s.makeReady cwd fs).2 = .ok () ∧ (s.store cwd fs id suffix data).1 =
        ((s.makeReady cwd fs).1.write cwd (s.place id suffix) data).1 := by
  rw [store]
  split
  · rename_i hm
    exact .inl (by rw [hm])
  · rename_i hm
    rw [hm, ← files_write]
    refine .inr ⟨rfl, ?_⟩
    split <;> rename_i hw <;> rw [hw]

/-- An upload is stored at its place in a directory that is made ready first. -/
theorem store_cases {logs : List Log.Event}
    (h : s.store cwd fs id suffix data = (staged, .ok path, logs)) :
    path = s.place id suffix ∧ ∃ ready, s.makeReady cwd fs = (ready, .ok ()) ∧
      ready.write cwd path data = (staged, .ok ()) := by
  rw [store] at h
  split at h
  · cases h
  · rename_i ready hready
    split at h
    · cases h
    · rename_i hw
      cases h
      rcases write_cases hw with ⟨hp, written⟩ | ⟨e, t, ht, -⟩
      · cases hp
        exact ⟨rfl, ready, hready, written⟩
      · cases ht

end

end UploadStore

end ImageGateway
