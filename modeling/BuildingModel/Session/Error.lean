import BuildingModel.Schema.Error

/-!
# Failures of modeling

Why an operation on a session failed, in words and by a code. A code belongs to a category, and says
whether the model can be corrected and the session used further.
-/
namespace BuildingModel

open BuildingModel.Validation

inductive ErrorCode
  | typeConstraint
  | shapeConstraint
  | validation
  | unknownName
  | duplicate
  | invalidIri
  | schema
  | engine
  deriving DecidableEq, Repr

namespace ErrorCode

def all : List ErrorCode :=
  [.typeConstraint, .shapeConstraint, .validation, .unknownName, .duplicate, .invalidIri, .schema,
    .engine]

def name : ErrorCode → String
  | .typeConstraint => "type_constraint"
  | .shapeConstraint => "shape_constraint"
  | .validation => "validation"
  | .unknownName => "unknown_name"
  | .duplicate => "duplicate"
  | .invalidIri => "invalid_iri"
  | .schema => "schema"
  | .engine => "engine"

def ofName? (name : String) : Option ErrorCode :=
  all.find? (·.name = name)

def category : ErrorCode → String
  | .typeConstraint | .shapeConstraint | .validation => "model_error"
  | .unknownName | .duplicate | .invalidIri => "client_error"
  | .schema => "schema_error"
  | .engine => "engine_error"

/-- Whether the caller can correct the model and go on with the session. -/
def isRecoverable : ErrorCode → Bool
  | .schema | .engine => false
  | _ => true

theorem ofName?_name (c : ErrorCode) : ofName? c.name = some c := by
  cases c <;> decide +kernel

end ErrorCode

/-- A target that a relation does not admit. -/
structure TypeConstraint where
  subject : String
  property : String
  target : String
  targetType : String
  allowed : List String
  deriving DecidableEq, Repr

def TypeConstraint.message (c : TypeConstraint) : String :=
  "Entity " ++ c.target ++ " (type " ++ c.targetType ++ ") must have type (" ++
    ", ".intercalate c.allowed ++ ") to be used as object of " ++ c.property ++ " on " ++ c.subject

/-- A record that does not satisfy its shape. -/
inductive ShapeViolation
  | missingField (shape field : String)
  | notInEnumeration (shape field value : String) (allowed : List String)
  | typeMismatch (shape field expected actual : String)
  | unknownField (shape field : String)
  deriving DecidableEq, Repr

def ShapeViolation.message : ShapeViolation → String
  | .missingField shape field => shape ++ ": required field '" ++ field ++ "' was not provided"
  | .notInEnumeration shape field value allowed =>
    shape ++ ": value " ++ value ++ " for '" ++ field ++ "' is not one of [" ++
      ", ".intercalate allowed ++ "]"
  | .typeMismatch shape field expected actual =>
    shape ++ ": field '" ++ field ++ "' expects " ++ expected ++ ", got " ++ actual
  | .unknownField shape field => shape ++ " has no field '" ++ field ++ "'"

inductive ModelError
  | typeConstraint (constraint : TypeConstraint)
  | shapeViolation (violation : ShapeViolation)
  | nonconforming (report : Report)
  | unknownClass (name : String)
  | unknownShape (name : String)
  | unknownRelation (className property : String)
  | unknownUnit (name : String)
  | unknownInstance (name : String)
  | duplicateEntity (iri : String)
  | invalidIri (text : String)
  | schema (error : SchemaError)
  | store (reason : String)
  | validationEngine (reason : String)
  deriving DecidableEq, Repr

namespace ModelError

def message : ModelError → String
  | .typeConstraint c => c.message
  | .shapeViolation v => v.message
  | .nonconforming report =>
    "Compiled graph does not conform to the ontology shapes:\n" ++ report.text
  | .unknownClass name => "Unknown class '" ++ name ++ "'"
  | .unknownShape name => "Unknown shape '" ++ name ++ "'"
  | .unknownRelation className property =>
    "Class " ++ className ++ " has no relation '" ++ property ++ "'"
  | .unknownUnit name => "Unknown unit '" ++ name ++ "'"
  | .unknownInstance name => "Instance " ++ name ++ " does not belong to this session"
  | .duplicateEntity iri => "An entity with URI " ++ iri ++ " already exists"
  | .invalidIri text => "Invalid IRI '" ++ text ++ "'"
  | .schema e => e.message
  | .store reason => "Graph store error: " ++ reason
  | .validationEngine reason => "Validation engine failed: " ++ reason

def code : ModelError → ErrorCode
  | .typeConstraint _ => .typeConstraint
  | .shapeViolation _ => .shapeConstraint
  | .nonconforming _ => .validation
  | .unknownClass _ | .unknownShape _ | .unknownRelation _ _ | .unknownUnit _
  | .unknownInstance _ => .unknownName
  | .duplicateEntity _ => .duplicate
  | .invalidIri _ => .invalidIri
  | .schema _ => .schema
  | .store _ | .validationEngine _ => .engine

end ModelError

end BuildingModel
