import ProgramGraph.CommandLine.Outcome

/-! The command line program. The files of the working directory come as a list of their paths on the
    standard input, one on each line, as a file finder prints it. -/

namespace ProgramGraph

/-- The file at a path, if there is one that can be read. -/
def readFile? (path : String) : IO (Option (String × ByteArray)) :=
  try return some (path, ← IO.FS.readBinFile path)
  catch _ => return none

/-- The files that the lines of the standard input name. What cannot be read as a file is a folder. -/
def readDisk : IO Disk := do
  let lines := Text.fields '\n' (← (← IO.getStdin).readToEnd)
  let found ← lines.mapM fun path => return (path, ← readFile? path)
  return .ofPaths (found.filterMap (·.2)) ((found.filter (·.2.isNone)).map (·.1))

/-- The settings that the environment asks for. -/
def readSettings : IO Settings := do
  let values ← Settings.variableNames.mapM fun name => return (name, ← IO.getEnv name)
  return .ofLookup fun name => (values.lookup name).join

/-- Prints what a run says and gives its code. -/
def finish (o : CommandLine.Outcome) (started : Nat) : IO UInt32 := do
  let code := o.code
  let ended ← IO.monoMsNow
  IO.print (o.output (ended - started))
  IO.eprint o.complaint
  return code

end ProgramGraph

open ProgramGraph in
/-- Runs the command that the arguments ask for. -/
def main (written : List String) : IO UInt32 := do
  match CommandLine.read written with
  | .error stop => finish (.ofStop stop) 0
  | .ok arguments =>
    let disk ← readDisk
    let settings ← readSettings
    let started ← IO.monoMsNow
    finish (arguments.run disk settings) started
