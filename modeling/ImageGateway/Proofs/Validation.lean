import ImageGateway.Proofs.CommandLine
import ImageGateway.Proofs.OutputPath

/-!
What makes a request invalid. There are three defects, and a request is refused for the first one
that it has (`Request.prepare_eq_error_iff`). White space is meant as Unicode has it
(`Text.isBlank_iff_white`), and of the flags only the set of them counts
(`Request.firstDefect_congr`).
-/

namespace ImageGateway

/-! ## White space -/

namespace Text

/-- The code points with the Unicode property `White_Space`. -/
def whiteSpace : List Nat :=
  [0x09, 0x0A, 0x0B, 0x0C, 0x0D, 0x20, 0x85, 0xA0, 0x1680, 0x2000, 0x2001, 0x2002, 0x2003, 0x2004,
    0x2005, 0x2006, 0x2007, 0x2008, 0x2009, 0x200A, 0x2028, 0x2029, 0x202F, 0x205F, 0x3000]

/-- Every character of the text is white space. -/
def White (s : String) : Prop := ∀ c ∈ s.toList, c.toNat ∈ whiteSpace

theorem isBlankChar_iff {c : Char} : isBlankChar c = true ↔ c.toNat ∈ whiteSpace := by
  simp only [isBlankChar, whiteSpace, Bool.or_eq_true, Bool.and_eq_true, decide_eq_true_eq,
    beq_iff_eq, List.mem_cons, List.not_mem_nil, or_false]
  omega

theorem isBlank_iff_white {s : String} : isBlank s = true ↔ White s := by
  simp only [isBlank_iff, isBlankChar_iff, White]

theorem white_empty : White "" := nofun

end Text

/-! ## The directory of the face library -/

variable {f : Flag} {flags : List Flag} {dir : Option String} {config : String}
  {part tokens : List String} {e : Failure}

/-- No directory is given, or only white space. -/
def NoDirectory (dir : Option String) : Prop := ∀ d, dir = some d → Text.White d

namespace Flag

theorem arguments_eq_error_iff : f.arguments dir = .error e ↔
    f = .facialImgDir ∧ NoDirectory dir ∧ e = .missingFacialImageDir := by
  cases f with
  | mlConfig => exact ⟨nofun, fun h => nomatch h.1⟩
  | facialImgDir =>
    cases dir with
    | none => simp [arguments, NoDirectory, eq_comm]
    | some d =>
      simp only [arguments, NoDirectory, Option.some.injEq, forall_eq', true_and,
        ← Text.isBlank_iff_white]
      split
      · rename_i blank
        simp [blank, eq_comm]
      · rename_i blank
        simp [blank]

theorem length_of_arguments (h : f.arguments dir = .ok part) :
    part.length = 1 + [f].count .facialImgDir := by
  cases f with
  | mlConfig =>
    cases h
    rfl
  | facialImgDir =>
    obtain ⟨d, -, -, rfl⟩ := arguments_facialImgDir_eq_ok_iff.1 h
    rfl

end Flag

/-- Flags fail by the one that asks for a directory, wherever it stands among them. -/
theorem optionTokens_eq_error_iff : optionTokens flags dir = .error e ↔
    .facialImgDir ∈ flags ∧ NoDirectory dir ∧ e = .missingFacialImageDir := by
  induction flags with
  | nil => exact ⟨nofun, fun h => nomatch h.1⟩
  | cons f flags ih =>
    simp only [optionTokens_cons, bind_eq_error_iff, Flag.arguments_eq_error_iff, ih, pure,
      Except.pure, reduceCtorEq, and_false, exists_false, or_false, List.mem_cons]
    constructor
    · rintro (⟨rfl, none, he⟩ | ⟨-, -, hf, none, he⟩)
      · exact ⟨.inl rfl, none, he⟩
      · exact ⟨.inr hf, none, he⟩
    · rintro ⟨hf, none, he⟩
      cases f with
      | facialImgDir => exact .inl ⟨rfl, none, he⟩
      | mlConfig =>
        rcases hf with hf | hf
        · cases hf
        · exact .inr ⟨_, rfl, hf, none, he⟩

/-- One token for each flag, and one more for each directory. -/
theorem length_optionTokens (h : optionTokens flags dir = .ok tokens) :
    tokens.length = flags.length + flags.count .facialImgDir := by
  induction flags generalizing tokens with
  | nil =>
    cases h
    rfl
  | cons f flags ih =>
    obtain ⟨part, rest, hpart, hrest, rfl⟩ := optionTokens_cons_eq_ok_iff.1 h
    have count : (f :: flags).count .facialImgDir =
        [f].count .facialImgDir + flags.count .facialImgDir := by
      rw [← List.count_append, List.singleton_append]
    rw [List.length_append, Flag.length_of_arguments hpart, ih hrest, count, List.length_cons]
    omega

theorem checkArguments_eq_error_iff : checkArguments config flags dir = .error e ↔
    Text.White config ∧ e = .missingConfigPath ∨
      ¬ Text.White config ∧ (.facialImgDir ∈ flags ∧ NoDirectory dir) ∧
        e = .missingFacialImageDir := by
  rw [← Text.isBlank_iff_white, checkArguments]
  split
  · rename_i blank
    simp [blank, eq_comm]
  · rename_i blank
    simp [blank, optionTokens_eq_error_iff, and_assoc]

theorem isInvalidRequest_of_checkArguments (h : checkArguments config flags dir = .error e) :
    e.isInvalidRequest = true := by
  rcases checkArguments_eq_error_iff.1 h with ⟨-, rfl⟩ | ⟨-, -, rfl⟩
  · rfl
  · rfl

/-! ## Requests -/

namespace Request

variable {r : Request} {c : Prepared}

/-- The input does not end in the suffix of an image. -/
def Formless (r : Request) : Prop := ∀ s : Suffix, ¬ s.Ends r.inputImagePath

/-- The path of the configuration is white. -/
def Unconfigured (r : Request) : Prop := Text.White r.mlConfig

/-- The flag of the face library is set, and there is no directory for it. -/
def Libraryless (r : Request) : Prop := .facialImgDir ∈ r.options ∧ NoDirectory r.facialImgDir

/-- The defect that a request is refused for: the first it has, of these three in this order. -/
inductive FirstDefect (r : Request) : Failure → Prop where
  | format : r.Formless → FirstDefect r (.unsupportedFormat r.inputImagePath)
  | config : ¬ r.Formless → r.Unconfigured → FirstDefect r .missingConfigPath
  | library : ¬ r.Formless → ¬ r.Unconfigured → r.Libraryless →
    FirstDefect r .missingFacialImageDir

theorem formless_iff : r.Formless ↔ ¬ ∃ s : Suffix, s.Ends r.inputImagePath := by
  rw [not_exists]
  rfl

theorem outputPath_eq_error_iff : outputPath r.inputImagePath = .error e ↔
    r.Formless ∧ e = .unsupportedFormat r.inputImagePath := by
  constructor
  · intro h
    have formless : r.Formless := by
      intro s hs
      obtain ⟨output, ho⟩ := exists_outputPath_iff.2 ⟨s, hs⟩
      cases h.symm.trans ho
    rw [outputPath_of_no_suffix formless] at h
    exact ⟨formless, (Except.error.inj h).symm⟩
  · rintro ⟨formless, rfl⟩
    exact outputPath_of_no_suffix formless

theorem prepare_eq_error_iff : r.prepare = .error e ↔ r.FirstDefect e := by
  simp only [prepare, bind_eq_error_iff, outputPath_eq_error_iff, checkArguments_eq_error_iff, pure,
    Except.pure, reduceCtorEq, and_false, exists_false, or_false]
  constructor
  · rintro (⟨formless, rfl⟩ | ⟨output, ho, hargs⟩)
    · exact .format formless
    · have formed := formless_iff.not_left.2 (exists_outputPath_iff.1 ⟨output, ho⟩)
      rcases hargs with ⟨unconfigured, rfl⟩ | ⟨configured, libraryless, rfl⟩
      · exact .config formed unconfigured
      · exact .library formed configured libraryless
  · intro h
    cases h with
    | format formless => exact .inl ⟨formless, rfl⟩
    | config formed unconfigured =>
      obtain ⟨output, ho⟩ := exists_outputPath_iff.2 (formless_iff.not_left.1 formed)
      exact .inr ⟨output, ho, .inl ⟨unconfigured, rfl⟩⟩
    | library formed configured libraryless =>
      obtain ⟨output, ho⟩ := exists_outputPath_iff.2 (formless_iff.not_left.1 formed)
      exact .inr ⟨output, ho, .inr ⟨configured, libraryless, rfl⟩⟩

/-- Every defect is the client's doing. -/
theorem isInvalidRequest_of_prepare (h : r.prepare = .error e) : e.isInvalidRequest = true := by
  cases prepare_eq_error_iff.1 h with
  | format => rfl
  | config => rfl
  | library => rfl

/-- A request without defects is valid. -/
theorem exists_prepare_iff : (∃ c, r.prepare = .ok c) ↔ ∀ e, ¬ r.FirstDefect e := by
  simp only [← prepare_eq_error_iff]
  cases r.prepare <;> simp

theorem FirstDefect.with_options (d : r.FirstDefect e) (h : ∀ f, f ∈ flags ↔ f ∈ r.options) :
    FirstDefect { r with options := flags } e := by
  cases d with
  | format formless => exact .format formless
  | config formed unconfigured => exact .config formed unconfigured
  | library formed configured libraryless =>
    exact .library formed configured ⟨(h .facialImgDir).2 libraryless.1, libraryless.2⟩

/-- Flags count as a set: their order and how often they are set make no defect. -/
theorem firstDefect_congr (h : ∀ f, f ∈ flags ↔ f ∈ r.options) :
    FirstDefect { r with options := flags } e ↔ r.FirstDefect e := by
  constructor
  · intro d
    exact d.with_options fun f => (h f).symm
  · intro d
    exact d.with_options h

/-- A request is refused exactly for the first of its defects. An input without the suffix of an
image comes first, then a white path of the configuration, then the flag of the face library
without a directory for it, at whatever place among the flags; a request with none of them is
valid, and then every flag gives one token and every directory one more. Nothing else makes a
request invalid, and flags in another order or set more often change nothing about it. The empty
text is white, and some characters that show nothing are not white space. -/
theorem prepare_refuses_first_defect (r : Request) :
    (r.prepare = .error (.unsupportedFormat r.inputImagePath) ↔ r.Formless) ∧
    (r.prepare = .error .missingConfigPath ↔ ¬ r.Formless ∧ r.Unconfigured) ∧
    (r.prepare = .error .missingFacialImageDir ↔
      ¬ r.Formless ∧ ¬ r.Unconfigured ∧ r.Libraryless) ∧
    ((∃ c, r.prepare = .ok c) ↔ ¬ r.Formless ∧ ¬ r.Unconfigured ∧ ¬ r.Libraryless) ∧
    (∀ c, r.prepare = .ok c →
      c.optionTokens.length = r.options.length + r.options.count .facialImgDir) ∧
    (∀ e, r.prepare = .error e → e = .unsupportedFormat r.inputImagePath ∨
      e = .missingConfigPath ∨ e = .missingFacialImageDir) ∧
    (∀ flags : List Flag, (∀ f, f ∈ flags ↔ f ∈ r.options) →
      ∀ e, { r with options := flags }.prepare = .error e ↔ r.prepare = .error e) ∧
    Text.White "" ∧
    ∀ n ∈ [0x1C, 0x1D, 0x1E, 0x1F, 0x200B, 0xFEFF], n ∉ Text.whiteSpace := by
  simp only [exists_prepare_iff, prepare_eq_error_iff]
  refine ⟨⟨?_, .format⟩, ⟨?_, fun h => .config h.1 h.2⟩, ⟨?_, fun h => .library h.1 h.2.1 h.2.2⟩,
    ⟨?_, ?_⟩, fun c h => length_optionTokens (optionTokens_of_prepare h), ?_,
    fun flags h e => firstDefect_congr h, Text.white_empty, by decide⟩
  · rintro ⟨formless⟩
    exact formless
  · rintro ⟨⟩
    exact ⟨by assumption, by assumption⟩
  · rintro ⟨⟩
    exact ⟨by assumption, by assumption, by assumption⟩
  · intro none
    have formed : ¬ r.Formless := fun formless => none _ (.format formless)
    have configured : ¬ r.Unconfigured := fun unconfigured => none _ (.config formed unconfigured)
    exact ⟨formed, configured,
      fun libraryless => none _ (.library formed configured libraryless)⟩
  · rintro ⟨formed, configured, furnished⟩ e h
    cases h with
    | format formless => exact formed formless
    | config _ unconfigured => exact configured unconfigured
    | library _ _ libraryless => exact furnished libraryless
  · intro e h
    cases h with
    | format => exact .inl rfl
    | config => exact .inr (.inl rfl)
    | library => exact .inr (.inr rfl)

/-- A request whose directory is an ideographic space, with the flag for it last. -/
def whiteLibrary : Request :=
  ⟨"a.png", [.mlConfig, .mlConfig, .facialImgDir], "\u200B", some "\u3000"⟩

theorem whiteLibrary_refused :
    whiteLibrary.prepare = .error .missingFacialImageDir ∧
    { whiteLibrary with options := [.facialImgDir, .mlConfig] }.prepare =
      .error .missingFacialImageDir ∧
    flagLikePrepared.optionTokens.length = 5 := by
  obtain ⟨-, -, -, -, -, -, sets, -⟩ := prepare_refuses_first_defect whiteLibrary
  obtain ⟨-, -, -, -, length, -⟩ := prepare_refuses_first_defect flagLike
  have refused : whiteLibrary.prepare = .error .missingFacialImageDir := by decide
  exact ⟨refused, (sets _ (fun f => by cases f <;> decide) _).2 refused, length _ rfl⟩

end Request

end ImageGateway
