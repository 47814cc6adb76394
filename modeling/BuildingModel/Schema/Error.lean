import BuildingModel.Hierarchy.Build
import BuildingModel.Shape.Catalog
import BuildingModel.Validation.Loading

/-!
# Failures of a schema

Why an ontology could not be loaded or no schema could be derived from it.
-/
namespace BuildingModel

open BuildingModel.Rdf BuildingModel.Ontology

inductive SchemaError
  | load (reason : Option String)
  | query (reason : String)
  | rows (reason : String)
  | multipleParents (className : String) (parents : List String)
  | invalidIri (text : String)
  deriving DecidableEq, Repr

namespace SchemaError

def message : SchemaError → String
  | .load none => "Failed to load ontology data"
  | .load (some reason) => "Failed to load ontology data: " ++ reason
  | .query reason => "SPARQL query failed: " ++ reason
  | .rows reason => "Unexpected query row: " ++ reason
  | .multipleParents className parents =>
    "Class " ++ className ++ " is declared under several parents: " ++ ", ".intercalate parents
  | .invalidIri text => "Invalid IRI '" ++ text ++ "'"

def ofHierarchy : HierarchyError → SchemaError
  | .invalidIri text => .invalidIri text
  | .multipleParents iri parents => .multipleParents iri.text parents

def ofShapes : ShapeError → SchemaError
  | .invalidIri text => .invalidIri text
  | .undecodable faults => .rows (faultsMessage faults)

def ofRows (faults : List RowFault) : SchemaError := .rows (faultsMessage faults)

def ofLoad (fault : Validation.LoadFault) : SchemaError := .load (some fault.message)

end SchemaError

end BuildingModel
