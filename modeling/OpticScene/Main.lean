import OpticScene.CommandLine.Run

/-!
# The program

Carries out the plan for the arguments with the files of the system.
-/

namespace OpticScene.CommandLine

/-- The reason for which the system refused a file. -/
def fileError : IO.Error → FileError
  | .noFileOrDirectory .. => .missing
  | .permissionDenied .. => .denied
  | .inappropriateType _ 21 _ => .isFolder
  | .inappropriateType _ 20 _ => .noFolder
  | .invalidArgument _ 36 _ => .longName
  | e => .other (toString e)

/-- The result of an action on a file. -/
def attempt (action : IO α) : IO (Except FileError α) := do
  match ← action.toBaseIO with
  | .ok a => return .ok a
  | .error e => return .error (fileError e)

/-- Carries out a plan up to its outcome. -/
def Plan.carryOut : Plan → IO Outcome
  | .done outcome => return outcome
  | .read path next => do (next (← attempt (IO.FS.readFile path))).carryOut
  | .write path contents next => do (next (← attempt (IO.FS.writeFile path contents))).carryOut

end OpticScene.CommandLine

/-- Runs the program. -/
def main (args : List String) : IO UInt32 := do
  let outcome ← (OpticScene.CommandLine.plan args).carryOut
  (← IO.getStdout).putStr outcome.stdout
  (← IO.getStderr).putStr outcome.stderr
  return UInt32.ofNat outcome.code
