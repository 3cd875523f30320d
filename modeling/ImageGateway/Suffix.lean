/-!
The image formats the program accepts, by the end of a file name. The table is ordered, yet no
name ends in two of its entries.
-/

namespace ImageGateway

inductive Suffix where
  | jpg
  | jpeg
  | png
  | tif
  deriving DecidableEq, Repr

namespace Suffix

def all : List Suffix := [.jpg, .jpeg, .png, .tif]

def text : Suffix → String
  | .jpg => ".jpg"
  | .jpeg => ".jpeg"
  | .png => ".png"
  | .tif => ".tif"

/-- The media type of images with this suffix. -/
def mediaType : Suffix → String
  | .jpg | .jpeg => "image/jpeg"
  | .png => "image/png"
  | .tif => "image/tiff"

/-- A name ends in this suffix; case matters. -/
def Ends (s : Suffix) (name : String) : Prop := s.text.toList <:+ name.toList

instance (s : Suffix) (name : String) : Decidable (s.Ends name) :=
  inferInstanceAs (Decidable (_ <:+ _))

/-- The suffix that a name ends in. -/
def of? (name : String) : Option Suffix := all.find? (·.Ends name)

/-- The name without the characters of the suffix at its end. -/
def stem (s : Suffix) (name : String) : String :=
  String.ofList (name.toList.take (name.toList.length - s.text.toList.length))

theorem mem_all (s : Suffix) : s ∈ all := by cases s <;> simp [all]

theorem of?_eq_none_iff {name : String} : of? name = none ↔ ∀ s : Suffix, ¬ s.Ends name := by
  simp [of?, mem_all]

theorem ends_of_of? {name : String} {s : Suffix} (h : of? name = some s) : s.Ends name := by
  simpa using List.find?_some h

end Suffix

end ImageGateway
