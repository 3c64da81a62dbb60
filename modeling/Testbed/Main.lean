import Testbed.CommandLine.Program

/-!
# The outer layer

Reads the file the options ask for, hands everything to `CommandLine.program`,
and prints what comes back. Starting commands is not among the things this layer
can do, so on its machine there is no program to be found, and a lab is built by
running what a dry run prints.
-/

namespace Testbed

def noPrograms : Machine := fun _ _ => .notStarted .notFound

def readContent (path : String) : IO (Except FileFailure (List UInt8)) := do
  try
    return .ok (← IO.FS.readBinFile path).toList
  catch
    | .permissionDenied .. => return .error .accessDenied
    | .inappropriateType _ 21 _ => return .error .isDirectory
    | .inappropriateType .. => return .error .notDirectory
    | .invalidArgument .. => return .error .nameTooLong
    | _ => return .error .notFound

/-- What reading the one path comes to that the program will ask for. -/
def readNeeded (arguments : List String) : IO (Except FileFailure (List UInt8)) :=
  match CommandLine.Options.parse arguments with
  | .ok { topology := some path, .. } => readContent path
  | _ => return .error .notFound

end Testbed

open Testbed in
def main (arguments : List String) : IO UInt32 := do
  let content ← readNeeded arguments
  let exit := CommandLine.program arguments (fun _ => content) noPrograms
  (← IO.getStdout).write ⟨exit.stdout.toArray⟩
  (← IO.getStderr).putStr exit.stderr
  return exit.status.toUInt32
