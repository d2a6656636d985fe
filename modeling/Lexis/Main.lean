import Lexis.CommandLine

/-!
# The program

Reads the file that the arguments name and prints what `Options.execute` says.
-/

open Lexis CommandLine

/-- Reads a file. -/
def readSource (file : String) : IO (Except LoadError String) := do
  try
    return decode (← IO.FS.readBinFile file)
  catch e =>
    match e with
    | .noFileOrDirectory .. => return .error .notFound
    | .permissionDenied .. => return .error .notPermitted
    | .inappropriateType _ 21 _ => return .error .isDirectory
    | e => return .error (.other (toString e))

def main (args : List String) : IO UInt32 := do
  match Options.parse? args with
  | none =>
    IO.eprint usage
    return 2
  | some options =>
    let outcome := options.execute (← readSource options.file)
    IO.print outcome.stdout
    IO.eprint outcome.stderr
    return outcome.exitCode
