import ImageGateway.Files.Basic
import ImageGateway.Text.Percent
import ImageGateway.Text.Search

/-!
The attributes of a part of a form, such as `form-data; name="image"; filename="face.png"`. A
value stands in quotes, in which a backslash protects a quote, or is percent-encoded and goes up
to the next semicolon.
-/

namespace ImageGateway.Http.Disposition

/-- A value in quotes, behind the first of them. -/
def quoted? : Bytes → Option Bytes
  | [] => none
  | 0x5C :: 0x22 :: s => (quoted? s).map (0x22 :: ·)
  | 0x22 :: _ => some []
  | b :: s => (quoted? s).map (b :: ·)

/-- The value at the front, if it is text. -/
def value? : Bytes → Option String
  | 0x22 :: s => (quoted? s).bind Text.Utf8.strict?
  | s => Text.Utf8.strict? (Text.Percent.decode (s.takeWhile (· ≠ 0x3B)))

/-- An attribute may begin at the front, behind a blank, and behind a semicolon. -/
def opens (before : Bytes) : Bool :=
  match before.getLast? with
  | none => true
  | some b => b = 0x20 || b = 0x09 || b = 0x0A || b = 0x0C || b = 0x0D || b = 0x3B

/-- The value of the attribute that `mark` begins; occurrences inside other words do not count. -/
def attribute? (mark : Bytes) (s : Bytes) : Option String :=
  match _h : Text.Search.split? mark s with
  | none => none
  | some (before, rest) =>
    if opens before then value? rest
    else if _hm : mark = [] then none
    else attribute? mark rest
  termination_by s.length
  decreasing_by
    have := Text.Search.length_of_split? _h
    have : mark.length ≠ 0 := by simpa using _hm
    omega

/-- The name of the field. -/
def name? (s : Bytes) : Option String := attribute? (Text.Utf8.encode "name=") s

/-- The name that the file has for the client. -/
def fileName? (s : Bytes) : Option String := attribute? (Text.Utf8.encode "filename=") s

end ImageGateway.Http.Disposition
