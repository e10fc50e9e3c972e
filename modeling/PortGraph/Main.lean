import PortGraph.CommandLine.Execution

/-!
# The program

The command line with its files, its variables and its streams. All that is decided is decided in
`CommandLine.answer`.
-/

namespace PortGraph.CommandLine

/-- Read a file. -/
def readFrom (path : String) : IO (Except ReadError String) := do
  try
    return .ok (← IO.FS.readFile path)
  catch e =>
    match e with
    | .noFileOrDirectory .. => return .error .missing
    | e => return .error (.other (toString e))

/-- The files that arguments ask for. -/
def readAll (arguments : List String) : IO (List (String × Except ReadError String)) :=
  match parse arguments with
  | .ok r => r.paths.mapM fun path => return (path, ← readFrom path)
  | .error _ => return []

/-- The variables that are looked at. -/
def readVariables : IO (List (String × String)) := do
  let keys := [logKey, Config.modeKey, Config.endpointKey, Config.intervalKey, Config.timeoutKey]
  return (← keys.mapM fun key => return (← IO.getEnv key).map (key, ·)).filterMap id

/-- An id that no other run has, in all likelihood. -/
def newId : IO String := do
  let digits ← (List.range 32).mapM fun _ => IO.rand 0 15
  return String.ofList (digits.flatMap (Nat.toDigits 16))

end PortGraph.CommandLine

open PortGraph CommandLine in
/-- Answer the arguments of the command line. -/
def main (arguments : List String) : IO UInt32 := do
  let files ← readAll arguments
  let settings ← readVariables
  let e : Environment := {
    read := fun path => ((files.find? (·.1 = path)).map (·.2)).getD (.error .missing)
    setting? := fun key => (settings.find? (·.1 = key)).map (·.2)
    executionId := ← newId }
  let a := answer e arguments
  for r in a.log do
    if (logFilter e.setting?).shows r then
      IO.eprintln ("[" ++ r.level.name ++ " " ++ r.source ++ "] " ++ r.message)
  IO.eprint a.usage
  IO.print a.output.display
  return UInt32.ofNat a.exitCode
