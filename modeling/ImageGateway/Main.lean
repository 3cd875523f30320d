import ImageGateway.Server

/-!
The program. It reads its environment and its configuration file, starts, shows the log, and runs
until its standard input ends. A failed start is reported on standard error.
-/

open ImageGateway

/-- What the system said when a file could not be read. -/
def faultOf : IO.Error → SystemFault
  | .noFileOrDirectory _ n _ | .permissionDenied _ n _ | .inappropriateType _ n _
  | .invalidArgument _ n _ | .otherError n _ => .os ⟨n.toNat⟩
  | e => .other (toString e)

def readContent (path : String) : IO (Except SystemFault Bytes) := do
  try
    return .ok (← IO.FS.readBinFile path).toList
  catch e =>
    return .error (faultOf e)

def main : IO UInt32 := do
  let env : Server.Environment := {
    configPath := (← IO.getEnv "KAI_DEMO_CONFIG").map Text.Utf8.encode
    logFilter := ← IO.getEnv "RUST_LOG" }
  let cwdPath := (← IO.currentDir).toString
  let cwd : Place := (Path.names cwdPath).reverse
  let path := Config.pathFrom env.configPath
  let start := Server.startWith cwd cwdPath [] env path (← readContent path)
  for line in start.lines do
    IO.println line
  IO.eprint start.report
  if start.succeeded then
    let input ← IO.getStdin
    while !(← input.getLine).isEmpty do
      pure ()
  return UInt32.ofNat start.exitCode
