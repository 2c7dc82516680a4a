import ReconChat.CommandLine.Run

/-!
The program on the command line. It gathers what a run is given and writes what the run came to.
It opens no connections: every request that is made finds the network out of reach.
-/

namespace ReconChat.Main

open CommandLine

def readFile (path : String) : IO (Except ReadError (List UInt8)) := do
  try
    return .ok (← IO.FS.readBinFile path).toList
  catch error =>
    match error with
    | .noFileOrDirectory _ _ _ => return .error .notFound
    | .inappropriateType _ _ _ => return .error .isDirectory
    | other => return .error (.other (toString other))

def readFiles (paths : List String) : IO Files := do
  let contents ← paths.mapM fun path => return (path, ← readFile path)
  return Documents.withBundled fun path => (latest? path contents).getD (.error .notFound)

def readEnvironment : IO Environment := do
  let values ← environmentNames.mapM fun name => return (name, ← IO.getEnv name)
  return fun name => (latest? name values).join

def gather (invocation : Invocation) (arguments : Arguments) : IO Invocation := do
  let settings ← readFiles (arguments.value? .config).toList
  let files ← readFiles (paths { invocation with files := settings } arguments)
  let ready := { invocation with files := files }
  if readsInput ready arguments then
    return { ready with input := (← (← IO.getStdin).readBinToEnd).toList }
  else return ready

end ReconChat.Main

open ReconChat in
def main (arguments : List String) : IO UInt32 := do
  let stdin ← IO.getStdin
  let start : CommandLine.Invocation :=
    { arguments := arguments
      environment := ← Main.readEnvironment
      files := fun _ => .error .notFound
      input := []
      terminal := ← stdin.isTty }
  let invocation ←
    match CommandLine.parse arguments with
    | .ok (.run read) => Main.gather start read
    | _ => pure start
  let ended := (CommandLine.run invocation ⟨fun _ => false, [], []⟩).1
  IO.print ended.output
  IO.eprint ended.errorOutput
  return ended.exitCode.toUInt32
