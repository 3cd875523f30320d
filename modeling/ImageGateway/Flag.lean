/-!
The flags that the image program takes after its three positional arguments.
-/

namespace ImageGateway

inductive Flag where
  /-- Followed on the command line by the directory of the facial imaging library. -/
  | facialImgDir
  /-- Handed on as it is; the configuration file itself is a positional argument. -/
  | mlConfig
  deriving DecidableEq, Repr

namespace Flag

def all : List Flag := [.facialImgDir, .mlConfig]

/-- The flag as it stands on the command line. -/
def token : Flag → String
  | .facialImgDir => "-facialImgDir"
  | .mlConfig => "-MLConfig"

def ofToken? (token : String) : Option Flag := all.find? (·.token = token)

theorem ofToken?_token (f : Flag) : ofToken? f.token = some f := by cases f <;> decide

theorem ofToken?_eq_some_iff {s : String} {f : Flag} : ofToken? s = some f ↔ s = f.token := by
  constructor
  · intro h
    have := List.find?_some h
    simpa using (of_decide_eq_true this).symm
  · rintro rfl
    exact ofToken?_token f

end Flag

end ImageGateway
