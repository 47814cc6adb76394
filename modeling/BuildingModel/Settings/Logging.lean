import BuildingModel.Files

/-!
# Settings of the log

Where and how the log is written, from the variables of the environment. A value that is not known
leaves a setting as it is.
-/
namespace BuildingModel

inductive LogFormat
  | json
  | pretty
  deriving DecidableEq, Repr

inductive LogOutput
  | stdout
  | stderr
  | file
  deriving DecidableEq, Repr

def LogFormat.name : LogFormat → String
  | .json => "json"
  | .pretty => "pretty"

def LogOutput.name : LogOutput → String
  | .stdout => "stdout"
  | .stderr => "stderr"
  | .file => "file"

structure LogSettings where
  format : LogFormat
  output : LogOutput
  directory : String
  fileName : String
  service : String
  version : String
  environment : String
  rotates : Bool
  deriving DecidableEq, Repr

namespace LogSettings

abbrev Environment := String → Option String

/-- Whether an environment is one of production. -/
def isProduction (environment : String) : Bool :=
  environment == "production" || environment == "prod"

/-- The settings that the kind of environment alone decides. -/
def forEnvironment (environment : String) : LogSettings where
  format := if isProduction environment then .json else .pretty
  output := .stderr
  directory := "logs"
  fileName := "brick-mason"
  service := "brick-mason"
  version := "0.1.0"
  environment := environment
  rotates := true

/-- The form of a name, in any case. -/
def formatOf? (name : String) : Option LogFormat :=
  match lowered name with
  | "json" => some .json
  | "pretty" => some .pretty
  | _ => none

/-- The output of a name, in any case. -/
def outputOf? (name : String) : Option LogOutput :=
  match lowered name with
  | "stdout" => some .stdout
  | "stderr" => some .stderr
  | "file" => some .file
  | _ => none

/-- Whether a value asks for a log file each day. -/
def asksForRotation (value : String) : Bool :=
  lowered value ∉ ["0", "false", "never"]

def ofEnvironment (env : Environment) : LogSettings :=
  let s := forEnvironment (((env "ENVIRONMENT").or (env "ENV")).getD "development")
  { s with
    format := ((env "LOG_FORMAT").bind formatOf?).getD s.format
    output := ((env "LOG_OUTPUT").bind outputOf?).getD s.output
    directory := (env "LOG_DIR").getD s.directory
    rotates := ((env "LOG_ROTATION").map asksForRotation).getD s.rotates }

end LogSettings

end BuildingModel
