import ImageGateway.Proofs.Json.Written
import ImageGateway.Proofs.Request

/-!
Flags, requests and responses on their way through JSON. Each is written as a tree of its own, and
decoding that tree gives it back, so all three make the round trip (`json_round_trips`).
-/

namespace ImageGateway

open Json

/-! ## Flags -/

/-- A text stands for a flag if it is its token. -/
theorem Flag.ofJson_string_eq_ok_iff {s : String} {f : Flag} :
    Flag.ofJson (.string s) = .ok f ↔ s = f.token := by
  rw [Flag.ofJson, asVariant, asVariant.named, Flag.ofJsonName?_eq_ofToken?,
    ← Flag.ofToken?_eq_some_iff]
  cases Flag.ofToken? s <;> simp

theorem Flag.ofJson_token (f : Flag) : Flag.ofJson (.string f.token) = .ok f :=
  ofJson_string_eq_ok_iff.2 rfl

theorem Flag.reads_toJson (f : Flag) : Reads f.toJson (.string f.token) := by
  rw [Flag.toJson, Flag.jsonName_eq_token]
  exact reads_string f.token

/-- A list is decoded item by item. -/
theorem Json.decodeItems_eq_ok_iff {α : Type} {f : Decoder α} {vs : List Json} {as : List α}
    (n : Nat) : decodeItems f n vs = .ok as ↔ List.Forall₂ (fun v a => f v = .ok a) vs as := by
  induction vs generalizing n as with
  | nil =>
    rw [decodeItems, List.forall₂_nil_left_iff, Except.ok.injEq, eq_comm]
  | cons v vs ih =>
    simp only [decodeItems, bind_eq_ok_iff, mapError_eq_ok_iff, ih, pure, Except.pure,
      Except.ok.injEq, List.forall₂_cons_left_iff]
    constructor
    · rintro ⟨a, ha, as, has, rfl⟩
      exact ⟨a, as, ha, has, rfl⟩
    · rintro ⟨a, as, ha, has, rfl⟩
      exact ⟨a, ha, as, has, rfl⟩

theorem Json.decodeItems_map {α β : Type} {f : Decoder β} {tree : α → Json} {g : α → β}
    (h : ∀ a, f (tree a) = .ok (g a)) (l : List α) (n : Nat) :
    decodeItems f n (l.map tree) = .ok (l.map g) := by
  rw [decodeItems_eq_ok_iff, List.forall₂_map_left_iff, List.forall₂_map_right_iff,
    List.forall₂_same]
  exact fun a _ => h a

/-! ## Requests -/

namespace Request

variable (r : Request)

/-- The members of the object that stands for the request. -/
def members : List (Option String × Json) := [
  (some "input_image_path", .string r.inputImagePath),
  (some "options", .array (r.options.map fun f => .string f.token)),
  (some "ml_config", .string r.mlConfig),
  (some "facial_img_dir", (r.facialImgDir.map Json.string).getD .null)]

theorem reads_facialImgDir : Reads (Writer.optional Writer.string r.facialImgDir)
    ((r.facialImgDir.map Json.string).getD .null) := by
  cases r.facialImgDir with
  | none => exact reads_null
  | some dir => exact reads_string dir

theorem reads_options : Reads (Writer.array (r.options.map Flag.toJson))
    (.array (r.options.map fun f => .string f.token)) := by
  apply reads_array
  rw [List.forall₂_map_left_iff, List.forall₂_map_right_iff, List.forall₂_same]
  exact fun f _ => f.reads_toJson

theorem reads_toJson : Reads r.toJson (.object r.members) :=
  reads_object
    (.cons ⟨rfl, reads_string _⟩ (.cons ⟨rfl, r.reads_options⟩ (.cons ⟨rfl, reads_string _⟩
      (.cons ⟨rfl, r.reads_facialImgDir⟩ .nil))))

theorem asOptional_facialImgDir :
    asOptional asText ((r.facialImgDir.map Json.string).getD .null) = .ok r.facialImgDir := by
  cases r.facialImgDir <;> rfl

theorem asList_options :
    asList Flag.ofJson (.array (r.options.map fun f => .string f.token)) = .ok r.options := by
  rw [asList, decodeItems_map Flag.ofJson_token, List.map_id']

/-- Every member fills its field, and then nothing is missing. -/
theorem ofJson_members : Request.ofJson (.object r.members) = .ok r := by
  rw [Request.ofJson, ofMembers, members]
  simp only [List.foldlM_cons, List.foldlM_nil, Draft.add, fill, asText, r.asList_options,
    r.asOptional_facialImgDir]
  rfl

end Request

/-! ## Responses -/

namespace Response

variable (r : Response)

theorem reads_toJson :
    Reads r.toJson (.object [(some "output_image_path", .string r.outputImagePath)]) :=
  reads_object (.cons ⟨rfl, reads_string _⟩ .nil)

theorem ofJson_member : Response.ofJson
    (.object [(some "output_image_path", .string r.outputImagePath)]) = .ok r := rfl

/-- The octets of a response are read as that response. -/
theorem decodeBytes_toJson : decodeBytes Response.ofJson (octets r.toJson) = .ok r :=
  decodeText_octets r.reads_toJson r.ofJson_member true

end Response

/-! ## Round trips -/

/-- Whatever is in them, requests, responses and flags are read back from what is written for
them. -/
theorem json_round_trips : RoundTrips Request.ofJson Request.toJson ∧
    RoundTrips Response.ofJson Response.toJson ∧ RoundTrips Flag.ofJson Flag.toJson :=
  ⟨.of_reads (fun r => .object r.members) Request.reads_toJson Request.ofJson_members,
    .of_reads _ Response.reads_toJson Response.ofJson_member,
    .of_reads _ Flag.reads_toJson Flag.ofJson_token⟩

end ImageGateway
