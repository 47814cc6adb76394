import BuildingModel.Proofs.Hierarchy.Policies
import BuildingModel.Proofs.Rdf.WellFormed
import BuildingModel.Proofs.Schema.Buildable
import BuildingModel.Proofs.Session.Capabilities
import BuildingModel.Proofs.Shape.Properties
import BuildingModel.Proofs.Shape.RecordTypes
import BuildingModel.Proofs.Units.Catalog

/-!
# The terms of a schema

The IRIs of classes, relations, shapes, fields and units and the members of enumerations are terms
of the ontology, apart from the classes that the settings name, which are checked. So they are
well-formed where the ontology is.
-/
namespace BuildingModel

open BuildingModel.Rdf BuildingModel.Ontology

variable {d : Dataset}

/-- The terms that a field itself brings in are well-formed: members, and the datatype of values. -/
def FieldKind.WellFormed : FieldKind → Prop
  | .enumeration members => ∀ t ∈ members, t.WellFormed
  | .scalar datatype => datatype.WellFormed
  | .unit _ => True
  | .reference _ => True

structure Schema.TermsWellFormed (schema : Schema) : Prop where
  classes : ∀ c ∈ schema.hierarchy.classes, c.iri.WellFormed
  relations : ∀ r ∈ schema.relations.relations, r.iri.WellFormed
  shapes : ∀ shape ∈ schema.shapes.shapes, shape.iri.WellFormed
  paths : ∀ shape ∈ schema.shapes.shapes, ∀ f ∈ shape.fields, f.path.WellFormed
  kinds : ∀ shape ∈ schema.shapes.shapes, ∀ f ∈ shape.fields, f.kind.WellFormed
  units : ∀ u ∈ schema.units.units, u.iri.WellFormed

namespace Rdf.Dataset.WellFormed

variable (hd : d.WellFormed)
include hd

theorem objectsOfTerm {m x : Term} {p : Iri} (h : x ∈ d.objectsOfTerm m p) : x.WellFormed := by
  obtain ⟨n, -, hsaid⟩ := mem_objectsOfTerm.1 h
  exact (hd.statement hsaid).2

theorem members {head x : Term} (h : x ∈ d.members head) : x.WellFormed := by
  obtain ⟨n, hfirst⟩ := exists_mem_objects_of_mem_members h
  obtain ⟨g, hq⟩ := mem_objects.1 hfirst
  exact (hd _ hq).object

/-! ## Classes -/

theorem leadsUp {base i r : Iri} (hr : r.WellFormed) (h : Hierarchy.LeadsUp d base i r) :
    i.WellFormed := by
  rcases Relation.ReflTransGen.cases_head h with rfl | ⟨b, ⟨hdeclared, -⟩, -⟩
  · exact hr
  · exact (hd.statement hdeclared).1

theorem classes {ns baseName : String} {rootNames : List String} {policy : HierarchyPolicy}
    {h : Hierarchy} (hb : Hierarchy.build d ns baseName rootNames policy = .ok h) :
    ∀ c ∈ h.classes, c.iri.WellFormed := by
  have hnames := (Hierarchy.exists_build_iff.1 ⟨h, hb⟩).1
  have hvalid : ∀ name ∈ baseName :: rootNames, (inNamespace ns name).WellFormed := by
    intro name hname
    obtain ⟨i, hi⟩ := Option.isSome_iff_exists.1 (hnames name hname)
    obtain ⟨htext, hi⟩ := Iri.parse?_eq_some_iff.1 hi
    rwa [show i = inNamespace ns name from congrArg Iri.mk htext] at hi
  intro c hc
  rcases ((Hierarchy.faithful_of_build hb).mem_iris_iff c.iri).1 (List.mem_map_of_mem hc) with
    heq | ⟨r, hr, -, hup⟩
  · rw [heq]
    exact hvalid baseName List.mem_cons_self
  · obtain ⟨name, hname, rfl⟩ := List.mem_map.1 hr
    exact hd.leadsUp (hvalid name (List.mem_cons_of_mem baseName hname)) hup

/-! ## Relations -/

theorem declaredIn {propertyClass : Iri} {x : Declaration}
    (hx : Declaration.DeclaredIn d propertyClass x) : x.property.WellFormed := by
  cases hx with
  | ofProperty _ hr => exact (hd.statement hr.typed).1
  | ofShape hr => exact (hd.statement hr.path).2

theorem relations {propertyClass : Iri} {h : Hierarchy} {shapes : ShapeCatalog}
    {rs : RelationRegistry} (hb : RelationRegistry.build d h shapes propertyClass = .ok rs) :
    ∀ r ∈ rs.relations, r.iri.WellFormed := by
  obtain ⟨ds, hds, rfl⟩ := map_eq_ok hb
  intro r hr
  rw [RelationRegistry.relations_ofDeclarations] at hr
  obtain ⟨p, hp, rfl⟩ := List.mem_map.1 hr
  rw [RelationRegistry.iri_relation_ofDeclarations]
  obtain ⟨x, hx, rfl⟩ := List.mem_map.1 (mem_of_mem_leading hp)
  exact hd.declaredIn ((Declaration.mem_ofDataset_iff hds).1 hx)

/-! ## Shapes -/

theorem shapes {propertyClass : Iri} {ns : String} {extra : List String} {c : ShapeCatalog}
    (hb : ShapeCatalog.build d propertyClass ns extra = .ok c) :
    ∀ shape ∈ c.shapes, shape.iri.WellFormed := by
  have hnode : ∀ i, d.isNodeShape i = true → i.WellFormed := fun i hi =>
    (hd.statement (n := .iri i) (of_decide_eq_true hi)).1
  intro shape hshape
  have hiri := List.mem_map_of_mem (f := RecordShape.iri) hshape
  rw [ShapeCatalog.iris_of_build hb] at hiri
  apply hnode
  rcases List.mem_append.1 hiri with hiri | hiri
  · rw [entityPropertyShapes, mem_sortIris, mem_distinct] at hiri
    exact (List.mem_filter.1 hiri).2
  · obtain ⟨name, -, hnamed⟩ := List.mem_filterMap.1 (mem_distinct.1 (List.mem_filter.1 hiri).1)
    exact (Option.filter_eq_some_iff.1 hnamed).2

/-- The terms of a constraint are well-formed. -/
theorem constraint {shape : Iri} {rows : List ConstraintRow}
    (hrows : ShapeCatalog.shapeConstraints d shape = .ok rows) {c : ConstraintRow} (hc : c ∈ rows) :
    c.path.WellFormed ∧ (∀ t, c.value = some t → t.WellFormed) ∧
      ∀ i, c.datatype = some i → i.WellFormed := by
  obtain ⟨properties, hproperties, rfl⟩ := map_eq_ok hrows
  obtain ⟨r, hr, hc⟩ := List.mem_flatMap.1 hc
  obtain ⟨m, -, hstated⟩ := (mem_propertyRows_iff hproperties).1 hr
  obtain ⟨hvalue, hcolumns⟩ := ShapeCatalog.mem_constraintRows_iff.1 hc
  have hdatatype : ∀ i, r.datatype = some i → i.WellFormed := by
    intro i hi
    obtain ⟨t, ht, hcolumn⟩ := hstated.datatype
    rw [hcolumn] at hi
    obtain ⟨x, rfl, hx⟩ := Option.bind_eq_some_iff.1 hi
    rw [Term.iri?_eq_some_iff.1 hx] at ht
    cases ht with
    | value ht => exact hd.objectsOfTerm ht
  rw [hcolumns]
  refine ⟨hd.objectsOfTerm hstated.path, fun t ht => ?_, hdatatype⟩
  simp only at ht
  rw [ht] at hvalue
  cases hvalue with
  | value hmember =>
    cases hhead : r.members with
    | none =>
      rw [hhead] at hmember
      cases hmember
    | some head =>
      rw [hhead] at hmember
      exact hd.members hmember

theorem fields {shape : RecordShape} {rows : List ConstraintRow}
    (hrows : ShapeCatalog.shapeConstraints d shape.iri = .ok rows)
    (hcompiled : shape = .ofRows shape.iri rows) {f : Field} (hf : f ∈ shape.fields) :
    f.path.WellFormed ∧ f.kind.WellFormed := by
  rw [hcompiled] at hf
  obtain ⟨p, hp, rfl⟩ := mem_fields_ofRows_iff.1 hf
  obtain ⟨c, hc, rfl⟩ := List.mem_map.1 (mem_of_mem_leading hp)
  refine ⟨(hd.constraint hrows hc).1, ?_⟩
  have hmem : ∀ {c'}, c' ∈ rows.filter (fun r => decide (r.path = c.path)) → c' ∈ rows :=
    fun hc' => (List.mem_filter.1 hc').1
  rw [PathDraft.kind_field]
  unfold PathDraft.kind
  split
  · trivial
  · split
    · intro t ht
      obtain ⟨c', hc', hvalue⟩ := List.mem_filterMap.1 (mem_distinct.1 ht)
      exact (hd.constraint hrows (hmem hc')).2.1 t hvalue
    · split
      · rename_i i hi
        obtain ⟨c', hc', hdatatype⟩ := List.mem_filterMap.1 (List.mem_of_getLast? hi)
        exact (hd.constraint hrows (hmem hc')).2.2 i hdatatype
      · trivial

/-! ## Units -/

theorem unitRows {rows : List UnitRow} (h : d.unitRows = .ok rows) :
    ∀ r ∈ rows, r.iri.WellFormed := by
  obtain ⟨all, hall, rfl⟩ := map_eq_ok h
  intro r hr
  obtain ⟨s, hs, hdecode⟩ :=
    exists_of_mem_right (decodeAll_eq_ok_iff.1 hall) (firstPer_subset all hr)
  obtain ⟨unit, htyped, label, -, symbol, -, expression, -, description, -, rfl⟩ :=
    mem_unitAnswers_iff.1 hs
  obtain ⟨text, -, hdecode⟩ := bind_eq_ok hdecode
  obtain ⟨i, hi, hdecode⟩ := bind_eq_ok hdecode
  cases hdecode
  have hunit : (unitAnswer unit label symbol expression description).term? "unit" =
      some (.iri unit) := rfl
  rw [Solution.iri_eq_ok_iff, hunit] at hi
  cases hi
  exact (hd.statement htyped).1

theorem units {settings : Settings} {units : UnitCatalog}
    (h : Schema.unitsOf d settings = .ok units) : ∀ u ∈ units.units, u.iri.WellFormed := by
  unfold Schema.unitsOf at h
  split at h
  · obtain ⟨rows, hrows, rfl⟩ := map_eq_ok (mapError_eq_ok h)
    intro u hu
    obtain ⟨r, hr, hunit⟩ := UnitCatalog.exists_row_of_mem_units hu
    rw [hunit.iri]
    exact hd.unitRows hrows r hr
  · cases h
    simp [UnitCatalog.empty]

end Rdf.Dataset.WellFormed

/-- A schema that comes from a well-formed ontology has well-formed terms. -/
theorem Schema.ComesFrom.termsWellFormed {settings : Settings} {schema : Schema}
    (hs : schema.ComesFrom d settings) (hd : d.WellFormed) : schema.TermsWellFormed := by
  induction hs with
  | built hb =>
    obtain ⟨propertyClass, _, hparts⟩ := parts_of_build hb
    have hfaithful := ShapeCatalog.faithful_of_build hparts.shapes
    constructor
    · exact hd.classes hparts.hierarchy
    · exact hd.relations hparts.relations
    · exact hd.shapes hparts.shapes
    · intro shape hshape f hf
      obtain ⟨rows, hrows, hcompiled⟩ := hfaithful.compiled shape hshape
      exact (hd.fields hrows hcompiled hf).1
    · intro shape hshape f hf
      obtain ⟨rows, hrows, hcompiled⟩ := hfaithful.compiled shape hshape
      exact (hd.fields hrows hcompiled hf).2
    · exact hd.units hparts.units
  | withValidator _ _ ih =>
    exact ⟨ih.classes, ih.relations, ih.shapes, ih.paths, ih.kinds, ih.units⟩

end BuildingModel
