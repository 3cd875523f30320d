import ImageGateway.Proofs.Http.Summary
import ImageGateway.Proofs.RequestJson

/-!
The spellings of a flag. In JSON, on its own and in a form a flag is spelled by its token, to the
letter; only a form takes white space around it (`Form.add_eq_ok_iff`). So a list of texts that
stands for flags in JSON stands for the same flags in a form, and a form takes a list of texts if
JSON takes it without the white space (`flag_spellings_agree`).
-/

namespace ImageGateway

variable {f : Flag} {s t t' : String} {e : Failure}

/-! ## White space around a text -/

namespace Text

/-- `t` is `s` without the white space at both its ends. -/
structure IsTrim (s t : String) : Prop where
  dropped : ∃ front back, s = front ++ t ++ back ∧ White front ∧ White back
  head : ∀ c, t.toList.head? = some c → c.toNat ∉ whiteSpace
  last : ∀ c, t.toList.getLast? = some c → c.toNat ∉ whiteSpace

theorem dropWhile_of_head {l : List Char}
    (h : ∀ c, l.head? = some c → isBlankChar c = false) : l.dropWhile isBlankChar = l := by
  cases l with
  | nil => rfl
  | cons c l => rw [List.dropWhile_cons_of_neg (by simp [h c rfl])]

theorem dropBlankEnd_append {l blank : List Char}
    (h : ∀ c, l.getLast? = some c → isBlankChar c = false)
    (hb : ∀ c ∈ blank, isBlankChar c = true) : dropBlankEnd (l ++ blank) = l := by
  rw [dropBlankEnd, List.reverse_append, List.dropWhile_append_of_pos (by simpa using hb),
    dropWhile_of_head (by simpa using h), List.reverse_reverse]

theorem isTrim_trim (s : String) : IsTrim s (trim s) := by
  have whole := List.takeWhile_append_dropWhile (p := isBlankChar) (l := s.toList)
  have atEnd := isTrimEnd_trimEnd (String.ofList (s.toList.dropWhile isBlankChar))
  have same : trimEnd (String.ofList (s.toList.dropWhile isBlankChar)) = trim s := by
    rw [trim, trimEnd, String.toList_ofList]
  rw [same] at atEnd
  obtain ⟨back, rest, blank⟩ := atEnd.dropped
  refine ⟨⟨String.ofList (s.toList.takeWhile isBlankChar), back, ?_, ?_, isBlank_iff_white.1 blank⟩,
    fun c hc => ?_, fun c hc => ?_⟩
  · rw [String.append_assoc, ← rest, ← String.ofList_append, whole, String.ofList_toList]
  · refine isBlank_iff_white.1 ?_
    rw [isBlank, String.toList_ofList, List.all_takeWhile]
  · -- What is left begins where the white space at the front ends.
    have stop := List.head?_dropWhile_not isBlankChar s.toList
    have front := congrArg String.toList rest
    rw [String.toList_ofList, String.toList_append] at front
    rw [front, List.head?_append, hc] at stop
    rw [← isBlankChar_iff]
    simpa using stop
  · rw [← isBlankChar_iff]
    simpa using atEnd.stops c hc

theorem IsTrim.eq_trim (h : IsTrim s t) : t = trim s := by
  obtain ⟨⟨front, back, rfl, hf, hb⟩, head, last⟩ := h
  have blank {x : String} (hx : White x) : ∀ c ∈ x.toList, isBlankChar c = true :=
    fun c hc => isBlankChar_iff.2 (hx c hc)
  have head (c : Char) (hc : t.toList.head? = some c) : isBlankChar c = false := by
    simpa [← isBlankChar_iff] using head c hc
  have last (c : Char) (hc : t.toList.getLast? = some c) : isBlankChar c = false := by
    simpa [← isBlankChar_iff] using last c hc
  have text : (front ++ t ++ back).toList = front.toList ++ (t.toList ++ back.toList) := by simp
  rw [trim, text, List.dropWhile_append_of_pos (blank hf)]
  cases ht : t.toList with
  | nil =>
    have none : back.toList.dropWhile isBlankChar = [] := by
      rw [← List.append_nil back.toList, List.dropWhile_append_of_pos (blank hb),
        List.dropWhile_nil]
    rw [List.nil_append, none, String.toList_eq_nil_iff.1 ht]
    rfl
  | cons c cs =>
    rw [← ht, dropWhile_of_head, dropBlankEnd_append last (blank hb), String.ofList_toList]
    simpa [ht] using head

end Text

/-! ## One text -/

namespace Flag

theorem parse_eq_ok_iff : parse s = .ok f ↔ s = f.token := by
  rw [← ofToken?_eq_some_iff, parse]
  cases ofToken? s <;> simp

theorem parse_token (f : Flag) : parse f.token = .ok f := parse_eq_ok_iff.2 rfl

/-- A text that is no token is refused with itself. -/
theorem parse_eq_error_iff :
    parse s = .error e ↔ (∀ f : Flag, s ≠ f.token) ∧ e = .unknownOption s := by
  constructor
  · intro h
    have other (f : Flag) : s ≠ f.token := by
      rintro rfl
      cases h.symm.trans f.parse_token
    rw [parse] at h
    split at h
    · cases h
    · cases h
      exact ⟨other, rfl⟩
  · rintro ⟨other, rfl⟩
    rw [parse]
    split
    · rename_i f h
      exact absurd (ofToken?_eq_some_iff.1 h) (other f)
    · rfl

/-- No token has white space at its ends. -/
theorem trim_token (f : Flag) : Text.trim f.token = f.token := by cases f <;> decide

end Flag

namespace Http

variable {form : Form} {field : Field} {fields : List Field} {flags : List Flag}
  {texts : List String}

theorem Summary.flag_eq (t : String) :
    Summary.flag t = (Flag.parse (Text.trim t)).mapError .ofFailure := by
  rw [Summary.flag, Flag.parse]
  cases Flag.ofToken? (Text.trim t) <;> rfl

namespace Form

variable (h : field.name = "options")

include h

theorem add_option (form : Form) : form.add field =
    ((Flag.parse (Text.trim field.text)).mapError .ofFailure).map fun f =>
      { form with options := form.options ++ [f] } := by
  rw [add, if_neg (by simp [h]), if_pos h, Flag.parse]
  dsimp only
  cases Flag.ofToken? (Text.trim field.text) <;> rfl

/-- A form takes a text for a flag if that is its token, white space around it aside. -/
theorem add_eq_ok_iff (ht : Text.IsTrim field.text t) :
    form.add field = .ok { form with options := form.options ++ [f] } ↔ Flag.parse t = .ok f := by
  rw [add_option h, ← ht.eq_trim]
  cases Flag.parse t <;> simp [Except.mapError, Except.map]

theorem add_eq_error (ht : Text.IsTrim field.text t) (other : ∀ f : Flag, t ≠ f.token) :
    form.add field = .error (.ofFailure (.unknownOption t)) := by
  rw [add_option h, ← ht.eq_trim, Flag.parse_eq_error_iff.2 ⟨other, rfl⟩]
  rfl

end Form

/-! ## Lists of texts -/

/-- A list of texts stands for flags in JSON if these are their tokens. -/
theorem asList_strings_eq_ok_iff :
    Json.asList Flag.ofJson (.array (texts.map .string)) = .ok flags ↔
      texts = flags.map Flag.token := by
  rw [Json.asList, Json.decodeItems_eq_ok_iff, List.forall₂_map_left_iff]
  simp only [Flag.ofJson_string_eq_ok_iff]
  rw [← List.forall₂_map_right_iff, List.forall₂_eq_eq_eq]

namespace Summary

theorem mapM_flag_eq_ok_iff :
    texts.mapM flag = .ok flags ↔ texts.map Text.trim = flags.map Flag.token := by
  induction texts generalizing flags with
  | nil => cases flags <;> simp [pure, Except.pure]
  | cons t texts ih =>
    rw [List.mapM_cons, flag_eq]
    simp only [bind_eq_ok_iff, mapError_eq_ok_iff, Flag.parse_eq_ok_iff, ih, pure, Except.pure,
      Except.ok.injEq]
    cases flags with
    | nil => simp
    | cons f flags =>
      simp only [List.map_cons, List.cons.injEq]
      constructor
      · rintro ⟨f', hf, flags', hflags, rfl, rfl⟩
        exact ⟨hf, hflags⟩
      · rintro ⟨hf, hflags⟩
        exact ⟨f, hf, flags, hflags, rfl, rfl⟩

end Summary

/-- A form takes its options as JSON takes their texts without the white space around them. -/
theorem Form.options_eq_iff (fields : List Field) (flags : List Flag) :
    (∃ form, fields.foldlM Form.add {} = .ok form ∧ form.options = flags) ↔
      Json.asList Flag.ofJson
        (.array (((Summary.texts "options" fields).map Text.trim).map .string)) = .ok flags := by
  have options : (Summary.ofFields fields).options = Summary.texts "options" fields := rfl
  rw [Form.foldlM_add, Summary.form, options, asList_strings_eq_ok_iff,
    ← Summary.mapM_flag_eq_ok_iff]
  cases (Summary.texts "options" fields).mapM Summary.flag with
  | error e => simp [Functor.map, Except.map]
  | ok flags' => simp [Functor.map, Except.map, Summary.formWith]

/-- Every text can be the text of an option. -/
theorem exists_field (t : String) : ∃ field : Field, field.name = "options" ∧ field.text = t := by
  refine ⟨{ name := "options", data := 0xEF :: 0xBB :: 0xBF :: Text.Utf8.encode t }, rfl, ?_⟩
  rw [Field.text, Text.Charset.decode, Text.Charset.ofMark?]
  exact Text.Utf8.lossy_encode t

theorem exists_fields (texts : List String) : ∃ fields : List Field,
    (∀ field ∈ fields, field.name = "options") ∧ Summary.texts "options" fields = texts := by
  choose field name text using exists_field
  refine ⟨texts.map field, by simp [name], ?_⟩
  have all : (texts.map field).filter (·.name = "options") = texts.map field :=
    List.filter_eq_self.2 (by simp [name])
  rw [Summary.texts, all, List.map_map, show Field.text ∘ field = id from funext text, List.map_id]

/-! ## All spellings -/

/-- A flag is spelled by its token and by nothing else, in JSON and alone, and it is written in
JSON as that text. A form takes the token with white space around it too. A text that is no token
is refused with exactly that text, in a form without the white space. So a form takes a list of
texts, and every list of texts can come in a form, as JSON takes the list without the white space;
and a list that JSON takes as it is stands for the same flags in a form. -/
theorem flag_spellings_agree :
    (∀ (s : String) (f : Flag),
      (Flag.ofJson (.string s) = .ok f ↔ Flag.parse s = .ok f) ∧
        (Flag.parse s = .ok f ↔ s = f.token)) ∧
    (∀ s, Json.decodeBytes Flag.ofJson (Json.octets (Json.Writer.string s)) =
      Flag.ofJson (.string s)) ∧
    (∀ f : Flag, f.toJson = Json.Writer.string f.token ∧
      String.ofList f.toJson = "\"" ++ f.token ++ "\"") ∧
    (∀ s e, Flag.parse s = .error e ↔ (∀ f : Flag, s ≠ f.token) ∧ e = .unknownOption s) ∧
    (∀ (form : Form) (field : Field) (t : String), field.name = "options" →
      Text.IsTrim field.text t →
      (∀ f, form.add field = .ok { form with options := form.options ++ [f] } ↔
        Flag.parse t = .ok f) ∧
      ((∀ f : Flag, t ≠ f.token) → form.add field = .error (.ofFailure (.unknownOption t)))) ∧
    (∀ texts, ∃ fields : List Field, (∀ field ∈ fields, field.name = "options") ∧
      Summary.texts "options" fields = texts) ∧
    (∀ fields flags, (∃ form, fields.foldlM Form.add {} = .ok form ∧ form.options = flags) ↔
      Json.asList Flag.ofJson
        (.array (((Summary.texts "options" fields).map Text.trim).map .string)) = .ok flags) ∧
    ∀ fields flags, Json.asList Flag.ofJson
        (.array ((Summary.texts "options" fields).map .string)) = .ok flags →
      ∃ form, fields.foldlM Form.add {} = .ok form ∧ form.options = flags := by
  refine ⟨fun s f => ⟨?_, Flag.parse_eq_ok_iff⟩, fun s => ?_, fun f => ⟨?_, ?_⟩,
    fun s e => Flag.parse_eq_error_iff,
    fun form field t name trimmed => ⟨fun f => Form.add_eq_ok_iff name trimmed, fun other => ?_⟩,
    exists_fields, Form.options_eq_iff, fun fields flags taken => ?_⟩
  · rw [Flag.ofJson_string_eq_ok_iff, Flag.parse_eq_ok_iff]
  · exact Json.decodeText_octets_eq (Json.reads_string s) Flag.ofJson true
  · rw [Flag.toJson, Flag.jsonName_eq_token]
  · cases f <;> decide
  · exact Form.add_eq_error name trimmed other
  · have tokens := asList_strings_eq_ok_iff.1 taken
    rw [Form.options_eq_iff, asList_strings_eq_ok_iff, tokens, List.map_map]
    exact List.map_congr_left fun f _ => f.trim_token

/-- An option with white space around its token. -/
def paddedField : Field := { name := "options", data := Text.Utf8.encode " -MLConfig\n" }

/-- White space around a token is passed over in a form, and only there. -/
theorem paddedField_taken : paddedField.name = "options" ∧
    Text.IsTrim paddedField.text "-MLConfig" ∧
    Form.add {} paddedField = .ok { options := [.mlConfig] } ∧
    Flag.ofJson (.string paddedField.text) ≠ .ok .mlConfig := by
  have text : paddedField.text = " -MLConfig\n" := by decide +kernel
  have trimmed : Text.IsTrim paddedField.text "-MLConfig" := by
    rw [text]
    exact Text.isTrim_trim " -MLConfig\n"
  obtain ⟨json, -, -, -, taken, -⟩ := flag_spellings_agree
  refine ⟨rfl, trimmed, ?_, fun h => ?_⟩
  · exact ((taken {} paddedField _ rfl trimmed).1 .mlConfig).2 (Flag.parse_token .mlConfig)
  · have token := (json _ _).2.1 ((json _ _).1.1 h)
    rw [text] at token
    exact absurd token (by decide)

end Http

end ImageGateway
