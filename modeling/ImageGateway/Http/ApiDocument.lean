import ImageGateway.Flag
import ImageGateway.Http.Route
import ImageGateway.Json.Writer

/-!
The description of the service in the OpenAPI format, version 3.0.3: the two ways of processing an
image, with what they take and what they answer.
-/

namespace ImageGateway.Http.ApiDocument

open Json.Writer

/-- A document in its written form. -/
abbrev Doc := List Char

def text (s : String) : Doc := string s

def yes : Doc := "true".toList

/-- A schema that is described elsewhere in the document. -/
def reference (schema : String) : Doc := object [("$ref", text ("#/components/schemas/" ++ schema))]

def described (description : String) (members : List (String × Doc)) : Doc :=
  object (members ++ [("description", text description)])

def aString : List (String × Doc) := [("type", text "string")]

def nullable : List (String × Doc) := [("nullable", yes)]

/-- An object with named properties, of which some have to be there. -/
def record (required : List String) (properties : List (String × Doc)) : List (String × Doc) :=
  [("type", text "object"), ("required", array (required.map text)),
    ("properties", object properties)]

def flags : List (String × Doc) := [("type", text "array"), ("items", reference "KaiOption")]

def configDescription : String := "Path to the ML task configuration file."

def schemas : Doc := object [
  ("KaiOption", described "Option flags passed through to KAI-impl."
    (aString ++ [("enum", array (Flag.all.map fun f => text f.token))])),
  ("KaiRequest", object (record ["input_image_path", "ml_config"] [
    ("facial_img_dir", described "Path to the facial imaging library, used with `-facialImgDir`."
      (aString ++ nullable)),
    ("input_image_path", described
      "Image to process. Relative paths are resolved by KAI-impl from its working directory."
      aString),
    ("ml_config", described configDescription aString),
    ("options", object flags)])),
  ("KaiResponse", object (record ["output_image_path"] [("output_image_path", object aString)])),
  ("UploadForm", described "Multipart fields accepted by [`process_image`]."
    (record ["image", "options", "ml_config"] [
      ("facial_img_dir", described "Path to the facial imaging library." (aString ++ nullable)),
      ("image", object (aString ++ [("format", text "binary")])),
      ("ml_config", described configDescription aString),
      ("options", described "Repeat the field once per selected option." flags)]))]

/-- Content of one media type. -/
def content (mediaType : String) (schema : Doc) : String × Doc :=
  ("content", object [(mediaType, object [("schema", schema)])])

/-- A response whose body, if one is given, is described. -/
def answer (status description : String) (body : List (String × Doc)) : String × Doc :=
  (status, object (("description", text description) :: body))

def plainText : List (String × Doc) := [content "text/plain" (object aString)]

/-- What is answered when the image program is to blame. -/
def programFailure : String × Doc :=
  answer "502" "KAI-impl could not be launched, failed, or wrote no output" plainText

/-- The entry of one route, which is posted to. -/
def entry (route : Route) (tag summary mediaType schema : String) (answers : List (String × Doc)) :
    String × Doc :=
  (route.template, object [("post", object [
    ("tags", array [text tag]), ("summary", text summary), ("operationId", text tag),
    ("requestBody", object [content mediaType (reference schema), ("required", yes)]),
    ("responses", object answers)])])

def paths : Doc := object [
  entry .process "process" "Process an image that already exists on the server's filesystem"
    "application/json" "KaiRequest" [
    answer "200" "KAI-impl wrote the output image"
      [content "application/json" (reference "KaiResponse")],
    answer "400" "Unsupported image format or invalid options" plainText,
    programFailure],
  entry .processImage "process_image"
    "Upload an image, run KAI-impl on it and get the output image back"
    "multipart/form-data" "UploadForm" [
    answer "200" "Output image; its server path is in the X-KAI-Output-Path header" [],
    answer "400" "Missing fields, unsupported image format or invalid options" plainText,
    programFailure]]

def document : Doc := object [
  ("openapi", text "3.0.3"),
  ("info", object [
    ("title", text "KAI demo API"),
    ("description", text "Runs the KAI-impl face and ML task pipeline on an image"),
    ("license", object [("name", text "")]),
    ("version", text "0.1.0")]),
  ("paths", paths),
  ("components", object [("schemas", schemas)])]

end ImageGateway.Http.ApiDocument
