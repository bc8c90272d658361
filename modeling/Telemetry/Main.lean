import Telemetry.CommandLine.Tool
/-
The tools as programs. The name of the program chooses the tool; what the tool may look at is read before it runs.
-/
namespace Telemetry.CommandLine

def readText (path : String) : IO (Option String) := do
  try
    return some (← IO.FS.readFile path)
  catch _ => return none

/-- the environment file of the working directory or of the nearest directory above it that has one -/
def readEnvironmentFile : IO (Option String) := do
  let directory := (← IO.currentDir).toString
  let depth := (directory.toList.filter (· == '/')).length
  let mut path := Machine.environmentFile
  for _ in List.range (depth + 1) do
    if let some content ← readText path then return some content
    path := "../" ++ path
  return none

/-- the machine, as far as a tool may look at it -/
def readMachine (files : List String) : IO Machine := do
  let environmentFile ← readEnvironmentFile
  let names := Settings.variableNames ++ Environment.mentioned (environmentFile.getD "").toList
  let environment ← names.mapM fun name => return (name, ← IO.getEnv name)
  let texts ← files.mapM fun path => return (path, ← readText path)
  let known := texts ++ [(Machine.environmentFile, environmentFile)]
  return {
    file := fun path => (known.lookup path).join
    environment := fun name => (environment.lookup name).join }

def toolOf (program : String) : Tool :=
  if program.endsWith "admin" then .administration
  else if program.endsWith "migrate" then .migration
  else .operator

end Telemetry.CommandLine

open Telemetry.CommandLine in
/-- runs the tool that the program is named for -/
def main (args : List String) : IO UInt32 := do
  let tool := toolOf (← IO.appPath).toString
  let machine ← readMachine (tool.files args)
  let exit := tool.run machine args
  IO.print exit.output
  IO.eprint exit.errors
  return exit.code.toUInt32
