import RecordSelection.CommandLine.Run

/-!
The program: it collects what a command can see, runs it, and prints what comes of it. It has no
connection to a server, so that every request fails.
-/

set_option autoImplicit false

open RecordSelection RecordSelection.CommandLine

def fileFault : IO.Error → FileFault
  | .inappropriateType .. => .directory
  | .noFileOrDirectory .. => .missing
  | .userError _ => .notText
  | _ => .missing

def readText (path : String) : IO (Except FileFault String) := do
  try return .ok (← IO.FS.readFile path)
  catch e => return .error (fileFault e)

def readVariable (name : String) : IO (List (String × String)) := do
  match ← IO.getEnv name with
  | some value => return [(name, value)]
  | none => return []

def readEnvironment : IO Environment := do
  let home := (← IO.getEnv "HOME").getD ""
  let values ← [Credentials.urlVariable, Credentials.tokenVariable, levelVariable].mapM
    readVariable
  let tokenFile ← readText (home ++ "/" ++ Credentials.fileName)
  return { values := values.flatten, home, tokenFile }

def main (arguments : List String) : IO UInt32 := do
  let paths := pathsOf arguments
  let texts ← paths.mapM fun path => do return (path, ← readText path)
  let input ← if paths.contains "-" then (← IO.getStdin).readToEnd else pure ""
  let outcome := runArguments
    { environment := ← readEnvironment
      input
      fileAt := fun path => (texts.lookup path).getD (.error .missing)
      answer := fun _ => .error (.network "there is no connection") }
    arguments
  for line in outcome.messages do IO.eprintln line
  IO.print outcome.output
  return outcome.status.toUInt32
