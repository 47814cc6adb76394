import BuildingModel.Proofs.Failure
import BuildingModel.Shape.Catalog
import Mathlib.Tactic

/-!
# The shapes of a catalog

Every shape of the catalog of an ontology has been compiled from its own constraints, and no two of
them have one IRI.
-/
namespace BuildingModel.ShapeCatalog

open BuildingModel.Rdf

variable {d : Dataset} {c c' : ShapeCatalog} {iri : Iri}

/-- Each shape is compiled from its constraints, and is there once. -/
structure Faithful (d : Dataset) (c : ShapeCatalog) : Prop where
  iris_nodup : (c.shapes.map RecordShape.iri).Nodup
  compiled : ∀ shape ∈ c.shapes, ∃ rows, shapeConstraints d shape.iri = .ok rows ∧
    shape = .ofRows shape.iri rows

theorem faithful_empty (d : Dataset) : Faithful d empty := ⟨List.nodup_nil, by simp [empty]⟩

theorem byIri_eq_none_iff : c.byIri iri = none ↔ iri ∉ c.shapes.map RecordShape.iri := by
  rw [byIri, Option.map_eq_none_iff, iriIndex_eq, Index.get?_last_eq_none_iff]

/-- Where no two shapes have one IRI, the shape of an IRI is the one that has it. -/
theorem byIri_eq_some_iff (hn : (c.shapes.map RecordShape.iri).Nodup) {s : ShapeId} :
    c.byIri iri = some s ↔ ∃ shape, c.get? s = some shape ∧ shape.iri = iri := by
  obtain ⟨i⟩ := s
  rw [byIri, iriIndex_eq, Option.map_eq_some_iff]
  simp only [ShapeId.mk.injEq, exists_eq_right, Index.get?_last_eq_some_iff_of_nodup hn,
    List.getElem?_map, Option.map_eq_some_iff, get?]

theorem Faithful.compile (hc : c.Faithful d) (h : compile d c iri = .ok c') : c'.Faithful d := by
  unfold ShapeCatalog.compile at h
  by_cases hsome : (c.byIri iri).isSome = true
  · rw [if_pos hsome] at h
    cases h
    exact hc
  · rw [if_neg hsome] at h
    cases hrows : shapeConstraints d iri with
    | error faults =>
      rw [hrows] at h
      cases h
    | ok rows =>
      rw [hrows] at h
      cases h
      have hnew : iri ∉ c.shapes.map RecordShape.iri :=
        byIri_eq_none_iff.1 (Option.not_isSome_iff_eq_none.1 hsome)
      constructor
      · rw [insert, List.map_append, List.map_singleton, ← List.concat_eq_append,
          List.nodup_concat]
        exact ⟨hnew, hc.iris_nodup⟩
      · intro shape hshape
        rcases List.mem_append.1 hshape with hshape | hshape
        · exact hc.compiled shape hshape
        · rw [List.mem_singleton.1 hshape]
          exact ⟨rows, hrows, rfl⟩

theorem Faithful.compileExtra {ns name : String} (hc : c.Faithful d)
    (h : compileExtra d ns c name = .ok c') : c'.Faithful d := by
  unfold ShapeCatalog.compileExtra at h
  cases hiri : Iri.parse? (extraText ns name) with
  | none =>
    rw [hiri] at h
    cases h
  | some iri =>
    simp only [hiri] at h
    by_cases hshape : d.isNodeShape iri = true
    · rw [if_pos hshape] at h
      exact hc.compile h
    · rw [if_neg hshape] at h
      cases h
      exact hc

theorem faithful_of_build {propertyClass : Iri} {ns : String} {extra : List String}
    (h : build d propertyClass ns extra = .ok c) : c.Faithful d := by
  obtain ⟨c₁, hc₁, h⟩ := bind_eq_ok h
  exact foldlM_induction Faithful.compileExtra h
    (foldlM_induction Faithful.compile hc₁ (faithful_empty d))

end BuildingModel.ShapeCatalog
