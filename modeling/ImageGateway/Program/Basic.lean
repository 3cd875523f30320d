import ImageGateway.Failure
import ImageGateway.Path

/-!
Where the image program is and where it runs. Both are fixed once, from the configuration and the
directory the service was started in.
-/

namespace ImageGateway

structure Program where
  /-- The directory the program runs in, in absolute form. -/
  workingDir : String
  /-- The executable file. -/
  path : String
  deriving DecidableEq, Repr

/-- `cwdPath` is the path of the current directory. -/
def Program.create (cwdPath workingDir executable : String) : Except Failure Program :=
  match Path.absolute? cwdPath workingDir with
  | some dir => .ok ⟨dir, Path.join dir executable⟩
  | none => .error (.launch (Path.join workingDir executable) .emptyPath)

end ImageGateway
