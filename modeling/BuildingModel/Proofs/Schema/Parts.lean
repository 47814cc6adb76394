import BuildingModel.Proofs.Failure
import BuildingModel.Schema.Basic

/-!
# The parts of a schema

A schema has its parts from one ontology, and its validator is the one with the shapes of that
ontology. It can be built if each of the parts can.
-/
namespace BuildingModel.Schema

open BuildingModel.Rdf BuildingModel.Validation

variable {d : Dataset} {settings : Settings} {E : PatternEngine} {schema : Schema}
  {propertyClass : Iri} {validator : ShapeValidator}

/-- What a schema is built from. -/
structure Parts (d : Dataset) (settings : Settings) (E : PatternEngine) (schema : Schema)
    (propertyClass : Iri) (validator : ShapeValidator) : Prop where
  settings_eq : schema.settings = settings
  class_eq : propertyClassOf settings = .ok propertyClass
  hierarchy : Hierarchy.build d settings.ns settings.baseClass settings.roots settings.hierarchy =
    .ok schema.hierarchy
  units : unitsOf d settings = .ok schema.units
  shapes : ShapeCatalog.build d propertyClass settings.ns settings.extraShapes = .ok schema.shapes
  relations : RelationRegistry.build d schema.hierarchy schema.shapes propertyClass =
    .ok schema.relations
  loaded : ShapeValidator.ofDataset d E = .ok validator
  validator_eq : schema.validator = validator.graphValidator

theorem parts_of_build (h : build d settings E = .ok schema) :
    ∃ propertyClass validator, Parts d settings E schema propertyClass validator := by
  obtain ⟨propertyClass, hclass, h⟩ := bind_eq_ok h
  obtain ⟨hierarchy, hhierarchy, h⟩ := bind_eq_ok h
  obtain ⟨units, hunits, h⟩ := bind_eq_ok h
  obtain ⟨shapes, hshapes, h⟩ := bind_eq_ok h
  obtain ⟨relations, hrelations, h⟩ := bind_eq_ok h
  obtain ⟨validator, hvalidator, h⟩ := bind_eq_ok h
  cases h
  exact ⟨propertyClass, validator, rfl, hclass, mapError_eq_ok hhierarchy, hunits,
    mapError_eq_ok hshapes, mapError_eq_ok hrelations, mapError_eq_ok hvalidator, rfl⟩

theorem Parts.build_eq_ok (h : Parts d settings E schema propertyClass validator) :
    build d settings E = .ok schema := by
  unfold build
  simp only [bind, Except.bind, pure, Except.pure, mapError_ok, h.class_eq, h.hierarchy, h.units,
    h.shapes, h.relations, h.loaded]
  rw [← h.settings_eq, ← h.validator_eq]

end BuildingModel.Schema
