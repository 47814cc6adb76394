import BuildingModel.CommandLine.Run

/-!
# The command line

Reads the files that the arguments name, runs the command and writes its answer.
-/
namespace BuildingModel.CommandLine

def readContent (path : String) : IO FileContent := do
  try
    return .text (← IO.FS.readFile path)
  catch
    | .noFileOrDirectory .. => return .missing
    | _ => return .unreadable

/-- What is found at some paths; at all others there is nothing. -/
def readFiles (paths : List String) : IO Files := do
  let contents ← paths.mapM fun path => return (path, ← readContent path)
  return fun path => (contents.lookup path).getD .missing

/-- The values of the variables that may give options. -/
def readEnvironment : IO (String → Option String) := do
  let names := Switch.shared.filterMap Switch.environmentName?
  let values ← names.mapM fun name => return (name, ← IO.getEnv name)
  return fun name => (values.lookup name).join

def usageText : String :=
  "Build typed models from a Brick ontology and validate graphs against it\n\n" ++
  "Usage: brick-mason [OPTIONS] <COMMAND>\n\n" ++
  "Commands:\n" ++
  "  inspect   Summarise the schema derived from the ontology (--class NAME, --json)\n" ++
  "  validate  Validate a data graph against the ontology's shapes (--data FILE)\n\n" ++
  "Options:\n  " ++
  ", ".intercalate (Scope.top.switches.map fun s => "--" ++ s.name)

/-- Says why there is nothing to do. -/
def refuse (r : Refusal) : IO UInt32 := do
  match r with
  | .version => IO.println "brick-mason 0.1.0"
  | .help true => IO.println usageText
  | .help false | .usage => IO.eprintln usageText
  return UInt32.ofNat r.exitCode

def perform (a : Arguments) : IO UInt32 := do
  match a.run (← readFiles a.paths) .expressions with
  | .error e =>
    IO.eprintln ("Error: " ++ e.message)
    return 1
  | .ok answer =>
    IO.println answer.text
    return if answer.succeeds then 0 else 1

end BuildingModel.CommandLine

open BuildingModel.CommandLine

def main (words : List String) : IO UInt32 := do
  match Arguments.parse (← readEnvironment) words with
  | .error r => refuse r
  | .ok a => perform a
