import BuildingModel.Relation.Registry
import BuildingModel.Schema.Error
import BuildingModel.Settings.Basic
import BuildingModel.Units.Catalog
import BuildingModel.Validation.Validator

/-!
# Schemas

A schema is all that is derived from an ontology: its classes, relations, record shapes and units,
and a validator with its shapes.
-/
namespace BuildingModel

open BuildingModel.Rdf BuildingModel.Validation

/-- What is derived from an ontology. -/
structure Schema where
  settings : Settings
  hierarchy : Hierarchy
  relations : RelationRegistry
  shapes : ShapeCatalog
  units : UnitCatalog
  validator : GraphValidator

namespace Schema

/-- The units of an ontology, if the settings ask for them. -/
def unitsOf (d : Dataset) (s : Settings) : Except SchemaError UnitCatalog :=
  if s.loadUnits then (d.unitRows.map UnitCatalog.ofRows).mapError SchemaError.ofRows
  else .ok .empty

def propertyClassOf (s : Settings) : Except SchemaError Iri :=
  match Iri.parse? (s.iriText s.entityPropertyClass) with
  | some iri => .ok iri
  | none => .error (.invalidIri (s.iriText s.entityPropertyClass))

/-- The schema of an ontology, the patterns of whose shapes an engine compiles. -/
def build (d : Dataset) (s : Settings) (E : PatternEngine := .expressions) :
    Except SchemaError Schema := do
  let propertyClass ← propertyClassOf s
  let hierarchy ←
    (Hierarchy.build d s.ns s.baseClass s.roots s.hierarchy).mapError SchemaError.ofHierarchy
  let units ← unitsOf d s
  let shapes ← (ShapeCatalog.build d propertyClass s.ns s.extraShapes).mapError SchemaError.ofShapes
  let relations ←
    (RelationRegistry.build d hierarchy shapes propertyClass).mapError SchemaError.ofRows
  let validator ← (ShapeValidator.ofDataset d E).mapError SchemaError.ofLoad
  return ⟨s, hierarchy, relations, shapes, units, validator.graphValidator⟩

def withValidator (s : Schema) (v : GraphValidator) : Schema := { s with validator := v }

def capabilities (s : Schema) (c : ClassId) : List String :=
  (s.relations.forClass s.hierarchy c).map Relation.capability

def targetName (s : Schema) : TargetType → String
  | .class c => s.hierarchy.nameOf c
  | .shape i => s.shapes.nameOf i

def summaryLine (s : Schema) : String :=
  "Schema \x7b namespace: " ++ Text.quoted s.settings.ns ++
    ", classes: " ++ Nat.repr s.hierarchy.size ++
    ", properties: " ++ Nat.repr s.relations.relations.length ++
    ", shapes: " ++ Nat.repr s.shapes.shapes.length ++
    ", units: " ++ Nat.repr s.units.units.length ++ " \x7d"

end Schema

end BuildingModel
