import BuildingModel.Proofs.Hierarchy.Outline
import BuildingModel.Proofs.Relation.Specific
import BuildingModel.Proofs.Shape.Compilable

/-!
# Schemas and the order of entry

Datasets that say the same have the same classes, the same record shapes and the same relations,
each of them in the same order, or none of these for the same reason. The order in which statements
were entered shows in labels only, where literals compare as equal, and in the fields of shapes.
-/
namespace BuildingModel

open BuildingModel.Rdf BuildingModel.Ontology

variable {d d' : Dataset}

/-! ## Record shapes -/

namespace ShapeCatalog

variable {c c' : ShapeCatalog} {i : Iri} {ns : String}

def iris (c : ShapeCatalog) : List Iri := c.shapes.map RecordShape.iri

/-- What is seen of compiling shapes: their IRIs, or the text that makes no IRI. Answers that cannot
be read are not told apart. -/
def outcome : Except ShapeError ShapeCatalog → Except (Option String) (List Iri)
  | .ok c => .ok c.iris
  | .error (.invalidIri text) => .error (some text)
  | .error (.undecodable _) => .error none

/-- Steps that agree in what is seen of them may be followed by steps that do. -/
theorem outcome_bind {x x' : Except ShapeError ShapeCatalog}
    {f f' : ShapeCatalog → Except ShapeError ShapeCatalog} (hx : outcome x = outcome x')
    (hf : ∀ {c c'}, c.iris = c'.iris → outcome (f c) = outcome (f' c')) :
    outcome (x >>= f) = outcome (x' >>= f') := by
  cases x with
  | ok c =>
    cases x' with
    | ok c' => exact hf (Except.ok.inj hx)
    | error e' => cases e' <;> cases hx
  | error e =>
    cases x' with
    | ok c' => cases e <;> cases hx
    | error e' => exact hx

theorem outcome_foldlM {α : Type} {f f' : ShapeCatalog → α → Except ShapeError ShapeCatalog}
    (hstep : ∀ {c c'}, c.iris = c'.iris → ∀ a, outcome (f c a) = outcome (f' c' a)) (as : List α)
    (hc : c.iris = c'.iris) : outcome (as.foldlM f c) = outcome (as.foldlM f' c') := by
  induction as generalizing c c' with
  | nil => exact congrArg Except.ok hc
  | cons a as ih =>
    rw [List.foldlM_cons, List.foldlM_cons]
    exact outcome_bind (hstep hc a) ih

theorem isSome_byIri_iff : (c.byIri i).isSome ↔ i ∈ c.iris := by
  have hnone : c.byIri i = none ↔ i ∉ c.iris := byIri_eq_none_iff
  rw [← not_iff_not, ← hnone, Option.not_isSome_iff_eq_none]

theorem byIri_congr (hc : c.iris = c'.iris) : c.byIri = c'.byIri := by
  have hindex : c.iriIndex = c'.iriIndex := by
    rw [c.iriIndex_eq, c'.iriIndex_eq]
    exact congrArg Index.last hc
  funext i
  rw [byIri, byIri, hindex]

theorem countable_congr (hs : d.SameGraph d') : Countable d i ↔ Countable d' i := by
  have hsays : ∀ s p o, d.Says s p o ↔ d'.Says s p o := hs
  simp only [Countable, hsays]

theorem isNodeShape_congr (hs : d.SameGraph d') : d.isNodeShape i = d'.isNodeShape i := by
  rw [Bool.eq_iff_iff, isNodeShape_iff, isNodeShape_iff]
  exact hs _ _ _

theorem entityPropertyShapes_congr (hs : d.SameGraph d') (propertyClass : Iri) :
    d.entityPropertyShapes propertyClass = d'.entityPropertyShapes propertyClass := by
  apply sortIris_eq_of_perm
  rw [List.perm_ext_iff_of_nodup (nodup_distinct _) (nodup_distinct _)]
  intro i
  simp only [mem_distinct, List.mem_filter, List.mem_flatMap, List.mem_filterMap,
    (hs.perm_defaultSubjects _ _).mem_iff, (hs.perm_defaultObjects _ _).mem_iff,
    isNodeShape_congr hs]

/-- A shape is compiled or not by its IRI and by what is said of its least counts. -/
theorem outcome_compile (hs : d.SameGraph d') (hc : c.iris = c'.iris) (i : Iri) :
    outcome (compile d c i) = outcome (compile d' c' i) := by
  unfold compile
  by_cases hi : i ∈ c.iris
  · rw [if_pos (isSome_byIri_iff.2 hi), if_pos (isSome_byIri_iff.2 (hc ▸ hi))]
    exact congrArg Except.ok hc
  · rw [if_neg (mt isSome_byIri_iff.1 hi), if_neg (mt isSome_byIri_iff.1 (hc ▸ hi))]
    have hread : (∃ rows, shapeConstraints d i = .ok rows) ↔
        ∃ rows, shapeConstraints d' i = .ok rows := by
      rw [exists_shapeConstraints_iff, exists_shapeConstraints_iff]
      exact countable_congr hs
    cases hrows : shapeConstraints d i with
    | ok rows =>
      obtain ⟨rows', hrows'⟩ := hread.1 ⟨rows, hrows⟩
      rw [hrows']
      simp only [outcome, iris, insert, List.map_append, List.map_singleton, RecordShape.ofRows]
      exact congrArg (fun is => Except.ok (is ++ [i])) hc
    | error faults =>
      cases hrows' : shapeConstraints d' i with
      | ok rows' =>
        obtain ⟨rows, hok⟩ := hread.2 ⟨rows', hrows'⟩
        rw [hrows] at hok
        cases hok
      | error faults' => rfl

theorem outcome_compileExtra (hs : d.SameGraph d') (hc : c.iris = c'.iris) (name : String) :
    outcome (compileExtra d ns c name) = outcome (compileExtra d' ns c' name) := by
  unfold compileExtra
  cases Iri.parse? (extraText ns name) with
  | none => rfl
  | some i =>
    simp only [isNodeShape_congr hs]
    by_cases hshape : d'.isNodeShape i = true
    · rw [if_pos hshape, if_pos hshape]
      exact outcome_compile hs hc i
    · rw [if_neg hshape, if_neg hshape]
      exact congrArg Except.ok hc

/-- The shapes of records have the same IRIs in the same order. -/
theorem outcome_build (hs : d.SameGraph d') (propertyClass : Iri) (ns : String)
    (extra : List String) :
    outcome (build d propertyClass ns extra) = outcome (build d' propertyClass ns extra) := by
  rw [build, build, entityPropertyShapes_congr hs]
  exact outcome_bind (outcome_foldlM (outcome_compile hs) _ rfl)
    fun hc => outcome_foldlM (outcome_compileExtra hs) extra hc

end ShapeCatalog

/-! ## Relations -/

namespace RelationRegistry

variable {h h' : Hierarchy} {shapes shapes' : ShapeCatalog}

theorem ofDeclarations_congr (hclass : h.byIri = h'.byIri) (hshape : shapes.byIri = shapes'.byIri) :
    ofDeclarations h shapes = ofDeclarations h' shapes' := by
  have hadd : RelationDraft.add h = RelationDraft.add h' := by
    have hresolves : RelationDraft.resolves h = RelationDraft.resolves h' := by
      funext domain
      rw [RelationDraft.resolves, RelationDraft.resolves, hclass]
    funext drafts d
    rw [RelationDraft.add, RelationDraft.add, hresolves]
  have hrelation : RelationDraft.relation h shapes = RelationDraft.relation h' shapes' := by
    have htarget : RelationDraft.target? h shapes = RelationDraft.target? h' shapes' := by
      funext i
      rw [RelationDraft.target?, RelationDraft.target?, hclass, hshape]
    funext r
    rw [RelationDraft.relation, RelationDraft.relation, htarget, hclass]
  funext ds
  rw [ofDeclarations, ofDeclarations, hadd, hrelation]

/-- Relations come from rows and from the IRIs of classes and shapes. -/
theorem build_congr (hs : d.SameGraph d') (hclasses : h.outline = h'.outline)
    (hshapes : shapes.iris = shapes'.iris) (propertyClass : Iri) :
    build d h shapes propertyClass = build d' h' shapes' propertyClass := by
  have hclass : h.byIri = h'.byIri := Hierarchy.byIri_eq_of_outline_eq hclasses
  have hrows : Declaration.ofDataset d propertyClass = Declaration.ofDataset d' propertyClass := by
    rw [Declaration.ofDataset_eq, Declaration.ofDataset_eq, hs.relationships_eq,
      hs.entityProperties_eq propertyClass, hs.shapeRelations_eq]
  rw [build, build, hrows, ofDeclarations_congr hclass (ShapeCatalog.byIri_congr hshapes)]

end RelationRegistry

namespace Schema

/-- Two datasets that say the same, entered in whatever order and with whatever repeats, have the
same classes with the same parents in the same order, or none for the same reason; the same record
shapes in the same order, or none; and from them the same relations with the same bindings, or the
same faults. -/
theorem entry_order_irrelevant (hs : d.SameGraph d') (settings : Settings) (propertyClass : Iri) :
    (Hierarchy.build d settings.ns settings.baseClass settings.roots settings.hierarchy).map
        Hierarchy.outline =
      (Hierarchy.build d' settings.ns settings.baseClass settings.roots settings.hierarchy).map
        Hierarchy.outline ∧
    ShapeCatalog.outcome (ShapeCatalog.build d propertyClass settings.ns settings.extraShapes) =
      ShapeCatalog.outcome (ShapeCatalog.build d' propertyClass settings.ns settings.extraShapes) ∧
    ∀ h h' shapes shapes',
      Hierarchy.build d settings.ns settings.baseClass settings.roots settings.hierarchy = .ok h →
      Hierarchy.build d' settings.ns settings.baseClass settings.roots settings.hierarchy =
        .ok h' →
      ShapeCatalog.build d propertyClass settings.ns settings.extraShapes = .ok shapes →
      ShapeCatalog.build d' propertyClass settings.ns settings.extraShapes = .ok shapes' →
      RelationRegistry.build d h shapes propertyClass =
        RelationRegistry.build d' h' shapes' propertyClass := by
  have hclasses := Hierarchy.map_outline_build hs settings.ns settings.baseClass settings.roots
    settings.hierarchy
  have hshapes := ShapeCatalog.outcome_build hs propertyClass settings.ns settings.extraShapes
  refine ⟨hclasses, hshapes, ?_⟩
  intro h h' shapes shapes' hh hh' hc hc'
  rw [hh, hh'] at hclasses
  rw [hc, hc'] at hshapes
  exact RelationRegistry.build_congr hs (Except.ok.inj hclasses) (Except.ok.inj hshapes) _

/-- The statements on fans, entered twice and in reverse. -/
def reenteredFanOntology : Dataset := .ofTriples (fanStatements ++ fanStatements).reverse

/-- They lead to the same classes and relations. -/
theorem entry_order_irrelevant_fan : ∃ h shapes,
    Hierarchy.build reenteredFanOntology "urn:plant#" "Entity" ["Equipment", "Fan"] .firstWins =
      .ok h ∧
    h.outline = fanSchema.hierarchy.outline ∧
    ShapeCatalog.build reenteredFanOntology ⟨"urn:plant#EntityProperty"⟩ "urn:plant#" [] =
      .ok shapes ∧
    RelationRegistry.build reenteredFanOntology h shapes ⟨"urn:plant#EntityProperty"⟩ =
      .ok fanSchema.relations := by
  have hsame : fanOntology.SameGraph reenteredFanOntology :=
    Dataset.sameGraph_ofTriples (by simp)
  obtain ⟨hclasses, -, hrelations⟩ :=
    entry_order_irrelevant hsame fanSettings ⟨"urn:plant#EntityProperty"⟩
  have hfirst : Hierarchy.build fanOntology fanSettings.ns fanSettings.baseClass fanSettings.roots
      fanSettings.hierarchy = .ok fanSchema.hierarchy := build_fanHierarchy
  rw [hfirst] at hclasses
  obtain ⟨h, hh, ho⟩ := map_eq_ok hclasses.symm
  have hshapes : ShapeCatalog.build reenteredFanOntology ⟨"urn:plant#EntityProperty"⟩ "urn:plant#"
      [] = .ok .empty := by decide +kernel
  refine ⟨h, .empty, hh, ho, hshapes, ?_⟩
  rw [← hrelations _ h .empty .empty hfirst hh build_fanShapes hshapes]
  exact build_fanRelations

end Schema

end BuildingModel
