import ApiContract.Command

/-!
# Program

The command line run on the real arguments and files.
-/

open ApiContract

/-- The state of a file. -/
def readFile (name : String) : IO (Except Command.FileFault String) := do
  try
    return Command.textOfBytes (← IO.FS.readBinFile name)
  catch
    | .noFileOrDirectory .. => return .error .missing
    | error => return .error (.other (toString error))

/-- Reads the files that the arguments name. -/
def readFiles (names : List String) : IO Command.Files := do
  let read ← names.mapM (fun name => return (name, ← readFile name))
  return fun name => (read.lookup name).getD (.error .missing)

def main (args : List String) : IO UInt32 := do
  let outcome := Command.run "payload-validator" args (← readFiles (Command.positional args))
  IO.print (Command.textOfLines outcome.output)
  IO.eprint (Command.textOfLines outcome.errors)
  return UInt32.ofNat outcome.exitCode
