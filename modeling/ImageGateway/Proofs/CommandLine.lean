import ImageGateway.Proofs.Request

/-!
Reading a command line back. The reader goes from left to right and takes what stands behind the
flag of the face library as its value, even if that looks like another flag. It stops at the end of
the arguments of a valid request and finds the flags of the request there, in order
(`readSettings_optionTokens`), so that different requests have different command lines. The
directory of the face library counts only if its flag is set (`Request.prepare_congr`).
-/

namespace ImageGateway

variable {f : Flag} {flags : List Flag} {dir dir' : Option String} {part tokens : List String}

/-! ## The reader -/

/-- A flag on a command line, with its value if it takes one. -/
structure Setting where
  flag : Flag
  value : Option String
  deriving DecidableEq, Repr

/-- Reads settings up to the first argument that begins none, and says what is left. -/
def readSettings : List String → List Setting × List String
  | [] => ([], [])
  | arg :: args =>
    match Flag.ofToken? arg with
    | none => ([], arg :: args)
    | some .mlConfig =>
      let (settings, rest) := readSettings args
      (⟨.mlConfig, none⟩ :: settings, rest)
    | some .facialImgDir =>
      match args with
      | [] => ([], [arg])
      | value :: args =>
        let (settings, rest) := readSettings args
        (⟨.facialImgDir, some value⟩ :: settings, rest)

theorem readSettings_mlConfig (args : List String) : readSettings (Flag.mlConfig.token :: args) =
    (⟨.mlConfig, none⟩ :: (readSettings args).1, (readSettings args).2) := by
  cases args <;> simp [readSettings, Flag.ofToken?_token]

theorem readSettings_facialImgDir (value : String) (args : List String) :
    readSettings (Flag.facialImgDir.token :: value :: args) =
      (⟨.facialImgDir, some value⟩ :: (readSettings args).1, (readSettings args).2) := by
  simp [readSettings, Flag.ofToken?_token]

/-! ## Arguments -/

namespace Flag

/-- What a flag means when this is the directory of the face library. -/
def setting (dir : Option String) : Flag → Setting
  | .mlConfig => ⟨.mlConfig, none⟩
  | .facialImgDir => ⟨.facialImgDir, dir⟩

@[simp] theorem flag_setting (dir : Option String) (f : Flag) : (f.setting dir).flag = f := by
  cases f <;> rfl

theorem arguments_facialImgDir_eq_ok_iff : arguments dir .facialImgDir = .ok part ↔
    ∃ d, dir = some d ∧ Text.isBlank d = false ∧ part = [token .facialImgDir, d] := by
  cases dir with
  | none => simp [arguments]
  | some d =>
    simp only [arguments, Option.some.injEq, exists_eq_left']
    constructor
    · intro h
      split at h
      · cases h
      · rename_i hd
        exact ⟨Bool.eq_false_iff.2 hd, (Except.ok.inj h).symm⟩
    · rintro ⟨hd, rfl⟩
      rw [hd]
      rfl

/-- The directory is an argument of one flag only. -/
theorem arguments_congr (h : f ≠ .facialImgDir) : f.arguments dir = f.arguments dir' := by
  cases f with
  | facialImgDir => exact absurd rfl h
  | mlConfig => rfl

theorem readSettings_arguments (h : f.arguments dir = .ok part) (rest : List String) :
    readSettings (part ++ rest) =
      (f.setting dir :: (readSettings rest).1, (readSettings rest).2) := by
  cases f with
  | mlConfig =>
    cases h
    exact readSettings_mlConfig rest
  | facialImgDir =>
    obtain ⟨d, rfl, -, rfl⟩ := arguments_facialImgDir_eq_ok_iff.1 h
    exact readSettings_facialImgDir d rest

end Flag

theorem optionTokens_cons : optionTokens (f :: flags) dir = (do
    let part ← f.arguments dir
    let rest ← optionTokens flags dir
    return part ++ rest) := by
  simp only [optionTokens, List.mapM_cons, bind_assoc, pure_bind, List.flatten_cons]

theorem optionTokens_cons_eq_ok_iff : optionTokens (f :: flags) dir = .ok tokens ↔
    ∃ part rest, f.arguments dir = .ok part ∧ optionTokens flags dir = .ok rest ∧
      tokens = part ++ rest := by
  simp only [optionTokens_cons, bind_eq_ok_iff, pure, Except.pure, Except.ok.injEq]
  constructor
  · rintro ⟨part, hp, rest, hr, rfl⟩
    exact ⟨part, rest, hp, hr, rfl⟩
  · rintro ⟨part, rest, hp, hr, rfl⟩
    exact ⟨part, hp, rest, hr, rfl⟩

/-- The reader finds the flags in order, each with its value, and goes on behind them. -/
theorem readSettings_optionTokens (h : optionTokens flags dir = .ok tokens) (rest : List String) :
    readSettings (tokens ++ rest) =
      (flags.map (Flag.setting dir) ++ (readSettings rest).1, (readSettings rest).2) := by
  induction flags generalizing tokens with
  | nil =>
    cases h
    rfl
  | cons f flags ih =>
    obtain ⟨part, more, hpart, hmore, rfl⟩ := optionTokens_cons_eq_ok_iff.1 h
    rw [List.append_assoc, Flag.readSettings_arguments hpart, ih hmore]
    rfl

/-- Nothing is left of the tokens themselves. -/
theorem readSettings_tokens (h : optionTokens flags dir = .ok tokens) :
    readSettings tokens = (flags.map (Flag.setting dir), []) := by
  have whole := readSettings_optionTokens h []
  rwa [List.append_nil, readSettings, List.append_nil] at whole

/-- With its flag set, the directory of the face library is there. -/
theorem exists_dir_of_optionTokens (h : optionTokens flags dir = .ok tokens)
    (hf : .facialImgDir ∈ flags) : ∃ d, dir = some d := by
  induction flags generalizing tokens with
  | nil => cases hf
  | cons f flags ih =>
    obtain ⟨part, rest, hpart, hrest, -⟩ := optionTokens_cons_eq_ok_iff.1 h
    rcases List.mem_cons.1 hf with rfl | hf
    · obtain ⟨d, hd, -, -⟩ := Flag.arguments_facialImgDir_eq_ok_iff.1 hpart
      exact ⟨d, hd⟩
    · exact ih hrest hf

theorem optionTokens_congr (h : .facialImgDir ∉ flags) :
    optionTokens flags dir = optionTokens flags dir' := by
  induction flags with
  | nil => rfl
  | cons f flags ih =>
    rw [List.mem_cons, not_or] at h
    have same : f.arguments dir = f.arguments dir' := Flag.arguments_congr (Ne.symm h.1)
    rw [optionTokens_cons, optionTokens_cons, same, ih h.2]

/-! ## Requests -/

namespace Request

variable {r r' : Request} {c c' : Prepared}

theorem optionTokens_of_prepare (h : r.prepare = .ok c) :
    optionTokens r.options r.facialImgDir = .ok c.optionTokens := by
  have arguments := (prepare_eq_ok_iff.1 h).2.1
  rw [checkArguments] at arguments
  split at arguments
  · cases arguments
  · exact arguments

/-- Without its flag the directory of the face library does not matter. -/
theorem prepare_congr (h : .facialImgDir ∉ r.options) (dir : Option String) :
    { r with facialImgDir := dir }.prepare = r.prepare := by
  have same : checkArguments r.mlConfig r.options dir =
      checkArguments r.mlConfig r.options r.facialImgDir := by
    rw [checkArguments, checkArguments, optionTokens_congr h]
  simp only [prepare, same]

/-- Equal command lines stand for the same settings. -/
theorem settings_eq_of_args (h : r.prepare = .ok c) (h' : r'.prepare = .ok c')
    (ha : c.args = c'.args) : r.inputImagePath = r'.inputImagePath ∧ r.mlConfig = r'.mlConfig ∧
      r.options.map (Flag.setting r.facialImgDir) =
        r'.options.map (Flag.setting r'.facialImgDir) := by
  rw [(prepare_eq_ok_iff.1 h).2.2, (prepare_eq_ok_iff.1 h').2.2] at ha
  simp only [List.cons_append, List.nil_append, List.cons.injEq] at ha
  obtain ⟨hinput, hconfig, -, htokens⟩ := ha
  have read := readSettings_tokens (optionTokens_of_prepare h)
  rw [htokens, readSettings_tokens (optionTokens_of_prepare h')] at read
  exact ⟨hinput, hconfig, (congrArg Prod.fst read).symm⟩

theorem options_eq_of_settings (h : r.options.map (Flag.setting r.facialImgDir) =
    r'.options.map (Flag.setting r'.facialImgDir)) : r.options = r'.options := by
  have flags := congrArg (List.map Setting.flag) h
  simpa [Function.comp_def] using flags

theorem facialImgDir_eq_of_settings (h : r.options.map (Flag.setting r.facialImgDir) =
    r'.options.map (Flag.setting r'.facialImgDir)) (hf : .facialImgDir ∈ r.options) :
    r.facialImgDir = r'.facialImgDir := by
  rw [← options_eq_of_settings h, List.map_inj_left] at h
  exact congrArg Setting.value (h _ hf)

theorem args_eq_iff (h : r.prepare = .ok c) (h' : r'.prepare = .ok c') : c.args = c'.args ↔
    r.inputImagePath = r'.inputImagePath ∧ r.mlConfig = r'.mlConfig ∧ r.options = r'.options ∧
      (.facialImgDir ∈ r.options → r.facialImgDir = r'.facialImgDir) := by
  constructor
  · intro ha
    obtain ⟨hinput, hconfig, settings⟩ := settings_eq_of_args h h' ha
    exact ⟨hinput, hconfig, options_eq_of_settings settings, facialImgDir_eq_of_settings settings⟩
  · obtain ⟨input, options, config, dir⟩ := r
    obtain ⟨input', options', config', dir'⟩ := r'
    rintro ⟨hinput, hconfig, hoptions, hdir⟩
    dsimp only at hinput hconfig hoptions hdir
    subst hinput hconfig hoptions
    suffices same : (⟨input, options, config, dir⟩ : Request).prepare =
        (⟨input, options, config, dir'⟩ : Request).prepare by
      cases Except.ok.inj (h.symm.trans (same.trans h'))
      rfl
    by_cases hf : .facialImgDir ∈ options
    · rw [hdir hf]
    · exact (prepare_congr (r := ⟨input, options, config, dir⟩) hf dir').symm

/-- A command line can be read back. The arguments of a valid request are its input, its
configuration, its output, and tokens that a reader from left to right goes through to the end. It
finds the flags of the request there, in order and as often as they were set; to the flag of the
face library the directory of the request belongs, to the other one nothing. So two valid requests
have the same arguments only if they are the same but for a directory without its flag; and such a
directory does not matter for anything that is made of the request, valid or not. -/
theorem args_read_back (r : Request) :
    (∀ c, r.prepare = .ok c →
      c.args = [r.inputImagePath, r.mlConfig, c.outputImagePath] ++ c.optionTokens ∧
      ∃ settings, readSettings c.optionTokens = (settings, []) ∧
        settings.map (·.flag) = r.options ∧
        ∀ x ∈ settings, (x.flag = .mlConfig → x.value = none) ∧
          (x.flag = .facialImgDir → ∃ d, r.facialImgDir = some d ∧ x.value = some d)) ∧
    (∀ r' c c', r.prepare = .ok c → Request.prepare r' = .ok c' →
      (c.args = c'.args ↔
        r.inputImagePath = r'.inputImagePath ∧ r.mlConfig = r'.mlConfig ∧
          r.options = r'.options ∧
          (.facialImgDir ∈ r.options → r.facialImgDir = r'.facialImgDir))) ∧
    (.facialImgDir ∉ r.options → ∀ dir, { r with facialImgDir := dir }.prepare = r.prepare) := by
  refine ⟨fun c h => ?_, fun r' c c' h h' => args_eq_iff h h', fun hf dir => prepare_congr hf dir⟩
  have tokens := optionTokens_of_prepare h
  refine ⟨(prepare_eq_ok_iff.1 h).2.2, _, readSettings_tokens tokens, ?_, ?_⟩
  · simp [Function.comp_def]
  · intro x hx
    obtain ⟨f, hf, rfl⟩ := List.mem_map.1 hx
    cases f with
    | mlConfig => exact ⟨fun _ => rfl, nofun⟩
    | facialImgDir =>
      obtain ⟨d, hd⟩ := exists_dir_of_optionTokens tokens hf
      exact ⟨nofun, fun _ => ⟨d, hd, hd⟩⟩

/-- A request whose values all look like flags. -/
def flagLike : Request :=
  ⟨"-MLConfig.png", [.facialImgDir, .mlConfig, .facialImgDir], "-facialImgDir", some "-MLConfig"⟩

/-- The same request prepared. -/
def flagLikePrepared : Prepared where
  outputImagePath := "-MLConfig_KAI.png"
  optionTokens := ["-facialImgDir", "-MLConfig", "-MLConfig", "-facialImgDir", "-MLConfig"]
  args := ["-MLConfig.png", "-facialImgDir", "-MLConfig_KAI.png", "-facialImgDir", "-MLConfig",
    "-MLConfig", "-facialImgDir", "-MLConfig"]

theorem flagLike_read_back : flagLike.prepare = .ok flagLikePrepared ∧
    ∃ settings, readSettings flagLikePrepared.optionTokens = (settings, []) ∧
      settings.map (·.flag) = flagLike.options := by
  have prepared : flagLike.prepare = .ok flagLikePrepared := rfl
  obtain ⟨-, settings, read, flags, -⟩ := (args_read_back flagLike).1 _ prepared
  exact ⟨prepared, settings, read, flags⟩

end Request

end ImageGateway
