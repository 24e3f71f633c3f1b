import WikibaseQuery.Command.Run

/-!
# The command

Reads the files, variables and input that the arguments call for, runs the command on them, and
writes what it answers.
-/

namespace WikibaseQuery

/-- The content of a file, or why it cannot be had. -/
def readFile (path : String) : IO FileContent := do
  try
    return .ok (← IO.FS.readBinFile path)
  catch
    | .noFileOrDirectory .. => return .error .absent
    | .inappropriateType _ 20 _ => return .error .throughFile
    | .inappropriateType .. => return .error .directory
    | .invalidArgument _ 36 _ => return .error .nameTooLong
    | .permissionDenied .. => return .error .denied
    | e => throw e

/-- What a request can read. -/
def gather (request : Option Request) : IO World := do
  let paths := (request.map Request.paths).getD []
  let files ← paths.mapM fun path => do return (path, ← readFile path)
  let values ← [Settings.conversionVariable, Settings.subclassVariable].mapM fun name => do
    return (name, ← IO.getEnv name)
  let input ← if request.any Request.readsInput then (← IO.getStdin).readToEnd else pure ""
  return {
    file := fun path => (files.lookup path).getD (.error .absent)
    environment := fun name => (values.lookup name).join
    input }

end WikibaseQuery

open WikibaseQuery in
/-- Run the command. -/
def main (args : List String) : IO UInt32 := do
  let outcome := runCommand (← gather (Request.read args)) args
  IO.print outcome.output
  IO.eprint outcome.errors
  return outcome.exit
