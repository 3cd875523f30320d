import ImageGateway.Files.Basic
import ImageGateway.Text.Utf8

/-!
The page with the upload form. It posts the form and shows the image that comes back.
-/

namespace ImageGateway.Http.Page

def lines : List String := [
  "<!DOCTYPE html>",
  "<html lang=\"en\">",
  "<head>",
  "  <meta charset=\"utf-8\">",
  "  <title>KAI</title>",
  "  <style>",
  "    body \x7b font-family: sans-serif; max-width: 48rem; margin: 2rem auto; \x7d",
  "    fieldset \x7b margin-bottom: 1rem; \x7d",
  "    label \x7b display: block; margin: 0.5rem 0; \x7d",
  "    input[type=text] \x7b width: 100%; \x7d",
  "    #result img \x7b max-width: 100%; \x7d",
  "  </style>",
  "</head>",
  "<body>",
  "  <h1>KAI</h1>",
  "  <form id=\"kai-form\" action=\"/api/v1/process-image\" method=\"post\" enctype=\"multipart/form-data\">",
  "    <fieldset>",
  "      <legend>Image</legend>",
  "      <input type=\"file\" name=\"image\" accept=\".jpg,.jpeg,.png,.tif,image/jpeg,image/png,image/tiff\" required>",
  "    </fieldset>",
  "    <fieldset>",
  "      <legend>KAI Options</legend>",
  "      <label><input type=\"checkbox\" name=\"options\" value=\"-facialImgDir\"> -facialImgDir</label>",
  "      <label><input type=\"checkbox\" name=\"options\" value=\"-MLConfig\"> -MLConfig</label>",
  "    </fieldset>",
  "    <label>(required) Path to ML Task Configuration File",
  "      <input type=\"text\" name=\"ml_config\" required>",
  "    </label>",
  "    <label>(optional) Path to Facial Imaging library",
  "      <input type=\"text\" name=\"facial_img_dir\">",
  "    </label>",
  "    <button type=\"submit\">Submit</button>",
  "  </form>",
  "  <p id=\"status\"></p>",
  "  <div id=\"result\"></div>",
  "  <script>",
  "    const form = document.getElementById(\"kai-form\");",
  "    const status = document.getElementById(\"status\");",
  "    const result = document.getElementById(\"result\");",
  "",
  "    form.addEventListener(\"submit\", async (event) => \x7b",
  "      event.preventDefault();",
  "      status.textContent = \"Running KAI-impl...\";",
  "      result.replaceChildren();",
  "",
  "      try \x7b",
  "        const response = await fetch(form.action, \x7b method: \"POST\", body: new FormData(form) \x7d);",
  "        if (!response.ok) \x7b",
  "          status.textContent = await response.text() || response.statusText;",
  "          return;",
  "        \x7d",
  "",
  "        const img = document.createElement(\"img\");",
  "        img.src = URL.createObjectURL(await response.blob());",
  "        result.appendChild(img);",
  "        status.textContent = response.headers.get(\"X-KAI-Output-Path\") || \"\";",
  "      \x7d catch (err) \x7b",
  "        status.textContent = \"Request failed: \" + err.message;",
  "      \x7d",
  "    \x7d);",
  "  </script>",
  "</body>",
  "</html>"]

/-- The page as it is sent; every line ends with a line feed. -/
def content : Bytes := Text.Utf8.encode (String.join (lines.map (· ++ "\n")))

end ImageGateway.Http.Page
