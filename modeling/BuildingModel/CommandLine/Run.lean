import BuildingModel.CommandLine.Arguments
import BuildingModel.Inspection.ClassDetail
import BuildingModel.Rdf.DocumentFormat
import BuildingModel.Session.Error
import BuildingModel.Validation.ReportJson

/-!
# Running a command

A command derives the schema of the given ontologies, and shows it or validates data with it. Data
that do not conform are a failure, but no error.
-/
namespace BuildingModel.CommandLine

open BuildingModel.Rdf BuildingModel.Validation

inductive RunError
  | settings (fault : SettingsError)
  | noOntology
  | ontologyFile (path : String) (fault : SchemaError)
  | dataFile (path : String) (fault : SchemaError)
  | schema (fault : SchemaError)
  | model (fault : ModelError)
  deriving DecidableEq, Repr

def RunError.message : RunError → String
  | .settings fault => fault.message
  | .noOntology => "no ontology given; pass --ontology FILE or set BRICK_MASON_ONTOLOGY"
  | .ontologyFile path fault => "failed to load " ++ path ++ ": " ++ fault.message
  | .dataFile path fault => "failed to load data graph " ++ path ++ ": " ++ fault.message
  | .schema fault => fault.message
  | .model fault => fault.message

inductive Answer
  | shown (text : String)
  | validated (report : Report)
  deriving DecidableEq, Repr

namespace Answer

def text : Answer → String
  | .shown text => text
  | .validated report => report.json.write

def succeeds : Answer → Bool
  | .shown _ => true
  | .validated report => report.conforms

end Answer

def loadFile (files : Files) (document : Nat) (d : Dataset) (path : String) :
    Except SchemaError Dataset :=
  match (files path).text?.bind (d.loadText? (.ofPath path) document) with
  | some d => .ok d
  | none => .error (.load none)

/-- The dataset of some files, where each is a document of its own. -/
def loadFiles (files : Files) (paths : List String) : Except RunError Dataset :=
  paths.zipIdx.foldlM
    (fun d (path, i) => (loadFile files i d path).mapError (RunError.ontologyFile path)) .empty

namespace Arguments

/-- The paths of all files that a command reads. -/
def paths (a : Arguments) : List String :=
  a.configFile.toList ++ a.ontologies ++ a.units ++
    match a.command with
    | .inspect _ _ => []
    | .validate data => [data]

def schema (a : Arguments) (files : Files) (E : PatternEngine) : Except RunError Schema := do
  let settings ← (a.settings files).mapError RunError.settings
  if a.ontologies.isEmpty then .error .noOntology
  else
    let d ← loadFiles files (a.ontologies ++ a.units)
    (Schema.build d settings E).mapError RunError.schema

def inspect (s : Schema) (className : Option String) (json : Bool) : Except RunError Answer :=
  match className with
  | none => .ok (.shown (if json then s.summaryJson.write else s.summaryText))
  | some name =>
    match ClassDetail.ofName? s name with
    | some d => .ok (.shown (if json then d.json.write else d.text))
    | none => .error (.model (.unknownClass name))

/-- Validates the data of a file, which is the document after those of the ontology. -/
def check (s : Schema) (files : Files) (document : Nat) (path : String) :
    Except RunError Answer := do
  let data ← (loadFile files document .empty path).mapError (RunError.dataFile path)
  let report ← (s.validator.validate data).mapError fun reason =>
    RunError.model (.validationEngine reason)
  return .validated report

/-- Runs the command, with an engine that compiles the patterns of shapes. -/
def run (a : Arguments) (files : Files) (E : PatternEngine := .expressions) :
    Except RunError Answer := do
  let s ← a.schema files E
  match a.command with
  | .inspect className json => inspect s className json
  | .validate data => check s files (a.ontologies.length + a.units.length) data

end Arguments

end BuildingModel.CommandLine
