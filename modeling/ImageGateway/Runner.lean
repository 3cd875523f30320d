import ImageGateway.Failure
import ImageGateway.Files.Basic
import ImageGateway.Log

/-!
The image program as the library sees it: something that is handed arguments, works on the files
for a while, and says how it ended.
-/

namespace ImageGateway

/-- The end of a program and what it wrote. -/
structure RunOutput where
  /-- None when a signal ended it. -/
  code : Option Int := none
  stdout : String := ""
  stderr : String := ""
  deriving DecidableEq, Repr

def RunOutput.success (o : RunOutput) : Bool := o.code = some 0

/-- One run: the files after it, its answer, and how many milliseconds it took. A run without a
duration never ends. -/
structure Run where
  files : Files
  answer : Except Failure RunOutput
  duration : Option Nat

structure Runner where
  /-- Where the program runs; relative paths among its arguments start here. -/
  workingDir : String
  /-- What is logged before a run. -/
  announce : List String → List Log.Event
  run : List String → Files → Run

end ImageGateway
