import ImageGateway.Json.Decode
import ImageGateway.Json.Writer
import ImageGateway.Request
import ImageGateway.Files.Basic

/-!
Flags, requests and responses as JSON. A structure is an object, whose unknown members are passed
over, or the list of its fields in order. `options` and `facial_img_dir` may be missing.
-/

namespace ImageGateway

open Json

/-- The name of a flag in JSON. -/
def Flag.jsonName : Flag → String
  | .facialImgDir => "-facialImgDir"
  | .mlConfig => "-MLConfig"

def Flag.ofJsonName? (name : String) : Option Flag := Flag.all.find? (·.jsonName = name)

def Flag.ofJson : Decoder Flag := asVariant (Flag.all.map Flag.jsonName) Flag.ofJsonName?

def Flag.toJson (f : Flag) : List Char := Writer.string f.jsonName

theorem Flag.jsonName_eq_token (f : Flag) : f.jsonName = f.token := by cases f <;> rfl

theorem Flag.ofJsonName?_eq_ofToken? (name : String) : ofJsonName? name = ofToken? name := by
  rw [ofJsonName?, ofToken?, funext jsonName_eq_token]

namespace Request

/-- The fields met so far. -/
structure Draft where
  inputImagePath : Option String := none
  options : Option (List Flag) := none
  mlConfig : Option String := none
  facialImgDir : Option (Option String) := none
  deriving DecidableEq, Repr

/-- Takes in one member of the object. -/
def Draft.add (d : Draft) : Option String × Json → Except Json.Error Draft
  | (none, _) => .error .notJson
  | (some key, v) =>
    if key = "input_image_path" then
      (fill key asText d.inputImagePath v).map ({ d with inputImagePath := · })
    else if key = "options" then
      (fill key (asList Flag.ofJson) d.options v).map ({ d with options := · })
    else if key = "ml_config" then
      (fill key asText d.mlConfig v).map ({ d with mlConfig := · })
    else if key = "facial_img_dir" then
      (fill key (asOptional asText) d.facialImgDir v).map ({ d with facialImgDir := · })
    else (skip v).map fun _ => d

/-- The request, if nothing that it needs is missing. -/
def Draft.finish (d : Draft) : Except Json.Error Request := do
  let input ← need "input_image_path" d.inputImagePath
  let config ← need "ml_config" d.mlConfig
  return ⟨input, d.options.getD [], config, d.facialImgDir.join⟩

/-- The request that an object's members spell. -/
def ofMembers (members : List (Option String × Json)) : Except Json.Error Request := do
  let d ← members.foldlM Draft.add {}
  d.finish

private def short (n : Nat) : Json.Error := .mismatch [] (.tooShort n "KaiRequest" 4)

/-- The request that a list of fields spells. -/
def ofItems (items : List Json) : Except Json.Error Request := do
  let input ← (item asText 0 items).getD (.error (short 0))
  let options ← (item (asList Flag.ofJson) 1 items).getD (.ok [])
  let config ← (item asText 2 items).getD (.error (short 2))
  let dir ← (item (asOptional asText) 3 items).getD (.ok none)
  if items.length ≤ 4 then return ⟨input, options, config, dir⟩ else throw .notJson

def ofJson : Decoder Request
  | .object members => ofMembers members
  | .array items => ofItems items
  | v => wrongType "struct KaiRequest" v

def toJson (r : Request) : List Char :=
  Writer.object [
    ("input_image_path", Writer.string r.inputImagePath),
    ("options", Writer.array (r.options.map Flag.toJson)),
    ("ml_config", Writer.string r.mlConfig),
    ("facial_img_dir", Writer.optional Writer.string r.facialImgDir)]

end Request

namespace Response

def ofMembers (members : List (Option String × Json)) : Except Json.Error Response := do
  let path ← members.foldlM (fun (path : Option String) (m : Option String × Json) =>
    match m with
    | (none, _) => .error .notJson
    | (some key, v) =>
      if key = "output_image_path" then fill key asText path v
      else (skip v).map fun _ => path) none
  return ⟨← need "output_image_path" path⟩

def ofItems (items : List Json) : Except Json.Error Response := do
  let path ← (item asText 0 items).getD (.error (.mismatch [] (.tooShort 0 "KaiResponse" 1)))
  if items.length ≤ 1 then return ⟨path⟩ else throw .notJson

def ofJson : Decoder Response
  | .object members => ofMembers members
  | .array items => ofItems items
  | v => wrongType "struct KaiResponse" v

def toJson (r : Response) : List Char :=
  Writer.object [("output_image_path", Writer.string r.outputImagePath)]

end Response

/-- Reads a document that fills a whole text, given in octets. -/
def Json.decodeBytes (f : Decoder α) (bytes : Bytes) : Except Json.Error α :=
  decodeText true f (Text.Utf8.decode bytes)

end ImageGateway
