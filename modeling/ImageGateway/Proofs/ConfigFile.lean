import ImageGateway.Proofs.Files.Elsewhere
import ImageGateway.Proofs.Text.Utf8
import ImageGateway.Server

/-!
Which file the configuration is read from. If the environment says a path, that file is read, and
what is in `config.toml` does not matter unless the path names it; if the environment says nothing,
only this matters (`Config.environment_decides_file`). The path has to be text: octets that are none
are taken as if nothing was said (`Config.pathFrom_of_not_text`), and then `config.toml` decides
after all (`Config.octets_fall_back`). A load fails in one of two ways, which its first text tells:
there is no text to be read (`Config.failsAs_read_iff`), or there is one which holds no
configuration (`Config.failsAs_text_iff`).
-/

namespace ImageGateway

namespace Files

variable {fs fs' : Files} {cwd p : Place} {name path : String}

/-- What reading the file at a path gives. -/
def read (fs : Files) (cwd : Place) (path : String) : Except SystemFault Bytes :=
  (fs.find cwd path).bind Entry.content?

/-- What reading the entry at a place gives, if it is no link. -/
def contentAt (fs : Files) (p : Place) : Except SystemFault Bytes :=
  match fs.get? p with
  | none => .error (.os .notFound)
  | some e => e.content?

/-- Reading a name gives what is there in the current directory. -/
theorem read_name (hn : Path.IsName name) (hs : ¬ Path.maxName < octetLength name)
    (hl : ∀ t, fs.get? (name :: cwd) ≠ some (.link t)) (hu : Path.Usable name) :
    fs.read cwd name = fs.contentAt (name :: cwd) := by
  rw [read, find, locate_here hn hs hl hu, contentAt]
  cases fs.get? (name :: cwd) <;> rfl

end Files

namespace Config

variable {path text : String} {content : Except SystemFault Bytes} {bytes : Bytes} {c : Config}
  {e : Error} {fs fs' : Files} {cwd : Place}

/-! ## Which path is taken -/

theorem pathFrom_encode (path : String) : pathFrom (some (Text.Utf8.encode path)) = path := by
  rw [pathFrom, Option.bind_some, Text.Utf8.strict?_eq_some_iff.2 rfl, Option.getD_some]

/-- Octets that are no text are taken as if nothing was said. -/
theorem pathFrom_of_not_text (h : ∀ text, bytes ≠ Text.Utf8.encode text) :
    pathFrom (some bytes) = defaultPath := by
  cases ht : Text.Utf8.strict? bytes with
  | none => rw [pathFrom, Option.bind_some, ht, Option.getD_none]
  | some text => exact absurd (Text.Utf8.strict?_eq_some_iff.1 ht) (h text)

theorem isName_defaultPath : Path.IsName defaultPath :=
  Path.isName_of_length (by decide) (by decide)

theorem usable_defaultPath : Path.Usable defaultPath := ⟨by decide, by decide, by decide⟩

/-! ## What is read there -/

theorem load_eq (fs : Files) (cwd : Place) (path : String) :
    load fs cwd path = ofContent path (fs.read cwd path) := rfl

/-- There is a text in the content, which decides; or there is none, which is what is told. -/
theorem ofContent_cases (path : String) (content : Except SystemFault Bytes) :
    (∃ text, content = .ok (Text.Utf8.encode text) ∧ ofContent path content = ofText text) ∨
    (∀ text, content ≠ .ok (Text.Utf8.encode text)) ∧ ∃ cause, ofContent path content =
      .error (.unreadable ⟨[s!"failed to read config file: {path}"], cause⟩) := by
  cases content with
  | error cause =>
    right
    exact ⟨nofun, cause, rfl⟩
  | ok bytes =>
    cases ht : Text.Utf8.strict? bytes with
    | some text =>
      left
      exact ⟨text, congrArg _ (Text.Utf8.strict?_eq_some_iff.1 ht), by rw [ofContent, ht]⟩
    | none =>
      right
      refine ⟨fun text h => ?_, .notUtf8, by rw [ofContent, ht]⟩
      obtain rfl := Except.ok.inj h
      cases ht.symm.trans (Text.Utf8.strict?_eq_some_iff.2 rfl)

theorem ofContent_encode (path text : String) :
    ofContent path (.ok (Text.Utf8.encode text)) = ofText text := by
  rw [ofContent, Text.Utf8.strict?_eq_some_iff.2 rfl]

/-- A configuration comes from a text that holds it. -/
theorem ofContent_eq_ok_iff : ofContent path content = .ok c ↔
    ∃ text, content = .ok (Text.Utf8.encode text) ∧ ofText text = .ok c := by
  constructor
  · intro h
    rcases ofContent_cases path content with ⟨text, ht, same⟩ | ⟨-, cause, hc⟩
    · exact ⟨text, ht, same.symm.trans h⟩
    · cases hc.symm.trans h
  · rintro ⟨text, rfl, h⟩
    rw [ofContent_encode, h]

/-! ## How a load fails -/

/-- The load failed, and this is the first thing that is told. -/
def FailsAs (told path : String) (r : Except Error Config) : Prop :=
  ∃ e, r = .error e ∧ (e.chain path).head? = some told

theorem told_ne (path : String) : s!"failed to read config file: {path}" ≠ contextAt path := by
  unfold contextAt
  intro h
  have letters := congrArg String.toList h
  simp only [toString, String.toList_append] at letters
  exact absurd (List.append_cancel_right letters) (by decide)

/-- What is wrong with a text is told as such. -/
theorem head?_chain_of_ofText (h : ofText text = .error e) (path : String) :
    (e.chain path).head? = some (contextAt path) := by
  rw [ofText] at h
  split at h
  · cases h
    rfl
  · rename_i es _
    cases ho : ofEntries es with
    | ok c => cases (ho ▸ h)
    | error m =>
      rw [ho] at h
      cases h
      rfl

/-- The file could not be read if and only if there is no text in it. -/
theorem failsAs_read_iff :
    FailsAs s!"failed to read config file: {path}" path (ofContent path content) ↔
      ∀ text, content ≠ .ok (Text.Utf8.encode text) := by
  rcases ofContent_cases path content with ⟨text, ht, same⟩ | ⟨none, cause, hc⟩
  · refine ⟨fun ⟨e, he, told⟩ => ?_, fun h => absurd ht (h text)⟩
    rw [head?_chain_of_ofText (same.symm.trans he)] at told
    exact absurd (Option.some.inj told).symm (told_ne path)
  · exact ⟨fun _ => none, fun _ => ⟨_, hc, rfl⟩⟩

/-- The text was at fault if and only if there is one and it is refused. -/
theorem failsAs_text_iff : FailsAs (contextAt path) path (ofContent path content) ↔
    ∃ text e, content = .ok (Text.Utf8.encode text) ∧ ofText text = .error e := by
  constructor
  · rintro ⟨e, he, told⟩
    rcases ofContent_cases path content with ⟨text, ht, same⟩ | ⟨-, cause, hc⟩
    · exact ⟨text, e, ht, same.symm.trans he⟩
    · cases hc.symm.trans he
      exact absurd (Option.some.inj told) (told_ne path)
  · rintro ⟨text, e, rfl, h⟩
    exact ⟨e, by rw [ofContent_encode, h], head?_chain_of_ofText h path⟩

/-! ## Two trees -/

/-- What is at the place of `config.toml` is not above the directory. -/
theorem not_suffix_cwd (cwd : Place) : ¬ defaultPath :: cwd <:+ cwd := by
  intro h
  have longer := h.length_le
  rw [List.length_cons] at longer
  omega

/-- A file that is read from somewhere else is the same whatever is in `config.toml`. -/
theorem read_of_apart (same : fs.Grown (· = defaultPath :: cwd) fs')
    (apart : fs.Apart fs' cwd path (defaultPath :: cwd)) : fs'.read cwd path = fs.read cwd path := by
  rw [Files.read, Files.read, Files.find_of_apart same (not_suffix_cwd cwd) apart]

/-- If the environment says a path, the configuration and the start of the program do not depend on
what is in `config.toml` but where the path leads there. If it says nothing, they depend on nothing
else; octets that are no text say nothing. In every case the load succeeds with what the text of the
chosen file holds, fails to read if there is no text in the file, and fails to deserialize if there
is one that holds no configuration; and a failed load ends the start. -/
theorem environment_decides_file (env : Option Bytes) (fs : Files) (cwd : Place) :
    (∀ path, env = some (Text.Utf8.encode path) → pathFrom env = path ∧
      ∀ fs', fs.Grown (· = defaultPath :: cwd) fs' → fs.Apart fs' cwd path (defaultPath :: cwd) →
        load fs' cwd (pathFrom env) = load fs cwd (pathFrom env) ∧
        ∀ cwdPath taken filter, Server.start fs' cwd cwdPath taken ⟨env, filter⟩ =
          Server.start fs cwd cwdPath taken ⟨env, filter⟩) ∧
    (env = none ∨ (∃ bytes, env = some bytes ∧ ∀ text, bytes ≠ Text.Utf8.encode text) →
      pathFrom env = defaultPath ∧
      ((∀ t, fs.get? (defaultPath :: cwd) ≠ some (.link t)) →
        load fs cwd (pathFrom env) =
          ofContent defaultPath (fs.contentAt (defaultPath :: cwd))) ∧
      ∀ fs' cwd', fs'.read cwd' defaultPath = fs.read cwd defaultPath →
        load fs' cwd' (pathFrom env) = load fs cwd (pathFrom env)) ∧
    (∀ c, load fs cwd (pathFrom env) = .ok c ↔
      ∃ text, fs.read cwd (pathFrom env) = .ok (Text.Utf8.encode text) ∧ ofText text = .ok c) ∧
    (FailsAs s!"failed to read config file: {pathFrom env}" (pathFrom env)
        (load fs cwd (pathFrom env)) ↔
      ∀ text, fs.read cwd (pathFrom env) ≠ .ok (Text.Utf8.encode text)) ∧
    (FailsAs s!"failed to deserialize config: {pathFrom env}" (pathFrom env)
        (load fs cwd (pathFrom env)) ↔
      ∃ text e, fs.read cwd (pathFrom env) = .ok (Text.Utf8.encode text) ∧
        ofText text = .error e) ∧
    ∀ e, load fs cwd (pathFrom env) = .error e → ∀ cwdPath taken filter,
      Server.start fs cwd cwdPath taken ⟨env, filter⟩ =
        { failure := some (e.chain (pathFrom env)) } := by
  refine ⟨?_, ?_, fun c => ofContent_eq_ok_iff, failsAs_read_iff, failsAs_text_iff, ?_⟩
  · rintro path rfl
    refine ⟨pathFrom_encode path, fun fs' same apart => ?_⟩
    have read := read_of_apart same apart
    rw [load_eq, load_eq, pathFrom_encode, read]
    refine ⟨rfl, fun cwdPath taken filter => ?_⟩
    rw [Files.read, Files.read] at read
    simp only [Server.start, pathFrom_encode, read]
  · intro unsaid
    have path : pathFrom env = defaultPath := by
      rcases unsaid with rfl | ⟨bytes, rfl, h⟩
      · rfl
      · exact pathFrom_of_not_text h
    rw [path]
    refine ⟨rfl, fun hl => ?_, fun fs' cwd' read => ?_⟩
    · rw [load_eq, Files.read_name isName_defaultPath (by decide) hl usable_defaultPath]
    · rw [load_eq, load_eq, read]
  · intro e he cwdPath taken filter
    rw [load_eq, Files.read] at he
    simp only [Server.start, Server.startWith, he]

/-! ### A tree with one file -/

/-- Nothing but `config.toml`, with this content. -/
def loneFile (content : Bytes) : Files := Files.empty.set [defaultPath] (.file content defaultMode)

theorem get?_loneFile (content : Bytes) :
    (loneFile content).get? [defaultPath] = some (.file content defaultMode) :=
  Files.get?_set_self _ _ (List.cons_ne_nil _ _)

theorem grown_loneFile (content content' : Bytes) :
    (loneFile content).Grown (· = [defaultPath]) (loneFile content') := by
  intro q hq
  rw [loneFile, loneFile, Files.get?_set_of_ne _ _ hq, Files.get?_set_of_ne _ _ hq]

/-- Another name does not name the file. -/
theorem apart_loneFile (content content' : Bytes) :
    (loneFile content).Apart (loneFile content') [] "other.toml" [defaultPath] := by
  refine .unnamed (get?_loneFile content) (get?_loneFile content') fun named => ?_
  have free : (loneFile content).get? ["other.toml"] = none := by
    rw [loneFile, Files.get?_set_of_ne _ _ (by decide)]
    rfl
  have other : (loneFile content).Names [] "other.toml" ["other.toml"] :=
    ⟨by decide, 0, .free ⟨by decide, by decide, by decide⟩ free⟩
  exact absurd (named.unique other) (by decide)

/-- A missing file is not replaced by `config.toml`. -/
theorem other_not_replaced :
    (loneFile []).Apart (loneFile [0x61]) [] "other.toml" [defaultPath] ∧
    load (loneFile [0x61]) [] "other.toml" = load (loneFile []) [] "other.toml" ∧
    FailsAs "failed to read config file: other.toml" "other.toml"
      (load (loneFile []) [] "other.toml") := by
  obtain ⟨said, -, -, unread, -⟩ :=
    environment_decides_file (some (Text.Utf8.encode "other.toml")) (loneFile []) []
  obtain ⟨path, same⟩ := said _ rfl
  obtain ⟨loaded, -⟩ := same _ (grown_loneFile [] [0x61]) (apart_loneFile [] [0x61])
  have missing : (loneFile []).read [] "other.toml" = .error (.os .notFound) := by decide +kernel
  rw [path] at loaded unread
  refine ⟨apart_loneFile _ _, loaded, unread.2 fun text h => ?_⟩
  cases missing.symm.trans h

/-- Octets that are no text do not keep `config.toml` from being read. -/
theorem octets_fall_back :
    ¬ ∀ (bytes : Bytes) (fs fs' : Files) (cwd : Place) (content content' : Bytes) (mode : Nat),
      fs.get? (defaultPath :: cwd) = some (.file content mode) →
      fs'.get? (defaultPath :: cwd) = some (.file content' mode) →
      fs.Grown (· = defaultPath :: cwd) fs' →
      (∀ path, bytes = Text.Utf8.encode path → ¬ fs.Names cwd path (defaultPath :: cwd)) →
      load fs' cwd (pathFrom (some bytes)) = load fs cwd (pathFrom (some bytes)) := by
  intro claim
  have unread : Text.Utf8.strict? [0xFF] = none := by decide +kernel
  have noText : ∀ path, [0xFF] ≠ Text.Utf8.encode path := by
    intro path h
    cases unread.symm.trans (Text.Utf8.strict?_eq_some_iff.2 h)
  have same := claim [0xFF] (loneFile []) (loneFile [0x61]) [] _ _ _ (get?_loneFile _)
    (get?_loneFile _) (grown_loneFile _ _) fun path h => absurd h (noText path)
  rw [pathFrom_of_not_text noText] at same
  exact absurd same (by decide +kernel)

end Config

end ImageGateway
