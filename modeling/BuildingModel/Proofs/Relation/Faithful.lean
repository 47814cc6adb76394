import BuildingModel.Proofs.Hierarchy.Superclasses
import BuildingModel.Proofs.Ontology.RelationRows
import BuildingModel.Proofs.Relation.Drafts
import BuildingModel.Proofs.Shape.Catalog

/-!
# Faithful relations

The relations of an ontology are bound just as it declares them. Each name stands for the first
property that has it, and what is declared of another property of that name is not attached to it.
The relation has a binding on a class if a declaration has this class for its domain, and may point
at what the ranges of such declarations stand for.
-/
namespace BuildingModel

open BuildingModel.Rdf BuildingModel.Ontology

variable {d : Dataset} {propertyClass i p : Iri} {h : Hierarchy} {shapes : ShapeCatalog}
  {rs : RelationRegistry} {c : ClassId} {t : TargetType} {x : Option Iri} {ds : List Declaration}

/-- An ontology declares a domain and a range of a property: those of an object property or of an
instance of the class of properties, or the target class of a node shape and a class that is allowed
on the property by one of its property shapes. -/
inductive Declaration.DeclaredIn (d : Dataset) (propertyClass : Iri) : Declaration → Prop
  | ofProperty {c : Iri} {r : RelationshipRow}
      (hc : c = Vocabulary.objectProperty ∨ c = propertyClass) (hr : r.StatedOf d c) :
      DeclaredIn d propertyClass ⟨r.property, r.domain, r.range⟩
  | ofShape {shape m : Node} {r : ShapeRelationRow} (hr : r.StatedBy d shape m) :
      DeclaredIn d propertyClass ⟨r.path, some r.targetClass, some r.allowed⟩

/-- The class that a declared domain stands for; without a domain it is the base class. -/
inductive Hierarchy.DomainOf (h : Hierarchy) : Option Iri → ClassId → Prop
  | universal : DomainOf h none Hierarchy.base
  | registered {i : Iri} {c : ClassId} (hc : h.iriAt? c = some i) : DomainOf h (some i) c

/-- What a declared range stands for: a class, or a compiled shape if there is no such class. -/
inductive Hierarchy.TargetOf (h : Hierarchy) (shapes : ShapeCatalog) (i : Iri) : TargetType → Prop
  | entities {c : ClassId} (hc : h.iriAt? c = some i) : TargetOf h shapes i (.class c)
  | records {s : ShapeId} {shape : RecordShape} (hnone : ∀ c, h.iriAt? c ≠ some i)
      (hs : shapes.get? s = some shape) (hi : shape.iri = i) : TargetOf h shapes i (.shape s)

/-- Relations are those that an ontology declares over its classes and its compiled shapes. -/
structure RelationRegistry.Faithful (d : Dataset) (propertyClass : Iri) (h : Hierarchy)
    (shapes : ShapeCatalog) (rs : RelationRegistry) : Prop where
  names_nodup : (rs.relations.map Relation.name).Nodup
  get?_eq_some_iff : ∀ {name r}, rs.get? name = some r ↔ r ∈ rs.relations ∧ r.name = name
  iri_of_get? : ∃ relationships entityProperties, d.relationships = .ok relationships ∧
    d.entityProperties propertyClass = .ok entityProperties ∧
    ∀ name, (rs.get? name).map Relation.iri =
      (relationships.map RelationshipRow.property ++ d.shapeRelations.map ShapeRelationRow.path ++
        entityProperties.map RelationshipRow.property).find? (·.name = name)
  mem_domains_iff : ∀ {r c}, r ∈ rs.relations → (c ∈ r.domains ↔
    ∃ x, Declaration.DeclaredIn d propertyClass x ∧ x.property = r.iri ∧ h.DomainOf x.domain c)
  mem_range_iff : ∀ {r c t}, r ∈ rs.relations → ((∃ b ∈ r.bindings, b.domain = c ∧ t ∈ b.range) ↔
    ∃ x, Declaration.DeclaredIn d propertyClass x ∧ x.property = r.iri ∧ h.DomainOf x.domain c ∧
      ∃ i, x.range = some i ∧ h.TargetOf shapes i t)

/-! ## Domains and ranges -/

theorem Hierarchy.domainOf_iff (hu : h.Unique) :
    h.DomainOf x c ↔
      RelationDraft.resolves h x = true ∧ (x.bind h.byIri).getD Hierarchy.base = c := by
  cases x with
  | none =>
    simp only [RelationDraft.resolves, Option.all_none, Option.bind_none, Option.getD_none,
      true_and]
    constructor
    · intro hd
      cases hd
      rfl
    · rintro rfl
      exact .universal
  | some i =>
    have hclass : h.DomainOf (some i) c ↔ h.byIri i = some c := by
      rw [hu.byIri_eq_some_iff]
      constructor
      · intro hd
        cases hd with
        | registered hc => exact hc
      · exact .registered
    rw [hclass]
    cases hb : h.byIri i with
    | none => simp [RelationDraft.resolves, hb]
    | some c' => simp [RelationDraft.resolves, hb]

theorem Hierarchy.targetOf_iff (hu : h.Unique) (hn : (shapes.shapes.map RecordShape.iri).Nodup) :
    h.TargetOf shapes i t ↔ RelationDraft.target? h shapes i = some t := by
  unfold RelationDraft.target?
  cases hb : h.byIri i with
  | some c =>
    have hc := hu.byIri_eq_some_iff.1 hb
    simp only [Option.map_some, Option.some_or, Option.some.injEq]
    constructor
    · intro ht
      cases ht with
      | entities hc' => rw [hu.eq hc hc']
      | records hnone => exact absurd hc (hnone c)
    · rintro rfl
      exact .entities hc
  | none =>
    have hnone := Hierarchy.byIri_eq_none_iff.1 hb
    simp only [Option.map_none, Option.none_or, Option.map_eq_some_iff,
      ShapeCatalog.byIri_eq_some_iff hn]
    constructor
    · intro ht
      cases ht with
      | entities hc => exact absurd hc (hnone _)
      | records _ hs hi => exact ⟨_, ⟨_, hs, hi⟩, rfl⟩
    · rintro ⟨s, ⟨shape, hs, hi⟩, rfl⟩
      exact .records hnone hs hi

namespace RelationDraft

variable {r : RelationDraft}

theorem mem_domains_relation_iff : c ∈ (relation h shapes r).domains ↔
    ∃ x, r.Holds x none ∧ (x.bind h.byIri).getD Hierarchy.base = c := by
  simp only [relation, Relation.domains, List.map_map, List.mem_map, Function.comp_apply, Holds]
  constructor
  · rintro ⟨s, hs, hc⟩
    exact ⟨s.domain, ⟨s, hs, rfl, by simp⟩, hc⟩
  · rintro ⟨x, ⟨s, hs, rfl, -⟩, hc⟩
    exact ⟨s, hs, hc⟩

theorem mem_range_relation_iff :
    (∃ b ∈ (relation h shapes r).bindings, b.domain = c ∧ t ∈ b.range) ↔
      ∃ x i, r.Holds x (some i) ∧ (x.bind h.byIri).getD Hierarchy.base = c ∧
        target? h shapes i = some t := by
  simp only [relation, List.mem_map, exists_exists_and_eq_and, mem_distinct, List.mem_filterMap,
    Holds]
  constructor
  · rintro ⟨s, hs, hc, i, hi, ht⟩
    exact ⟨s.domain, i, ⟨s, hs, rfl, by simpa using hi⟩, hc, ht⟩
  · rintro ⟨x, i, ⟨s, hs, rfl, hi⟩, hc, ht⟩
    exact ⟨s, hs, hc, i, hi i rfl, ht⟩

/-- The relation of a property has a binding on the classes that its declared domains stand for. -/
theorem mem_domains_ofDeclarations_iff (hu : h.Unique) :
    c ∈ (relation h shapes (ofDeclarations h ds p)).domains ↔
      ∃ y ∈ ds, y.property = p ∧ h.DomainOf y.domain c := by
  simp only [mem_domains_relation_iff, holds_ofDeclarations_iff, Hierarchy.domainOf_iff hu]
  constructor
  · rintro ⟨x, ⟨hx, y, hy, hp, rfl, -⟩, hc⟩
    exact ⟨y, hy, hp, hx, hc⟩
  · rintro ⟨y, hy, hp, hx, hc⟩
    exact ⟨y.domain, ⟨hx, y, hy, hp, rfl, by simp⟩, hc⟩

/-- The relation of a property may point at what the ranges that go with such a domain stand for. -/
theorem mem_range_ofDeclarations_iff (hu : h.Unique)
    (hn : (shapes.shapes.map RecordShape.iri).Nodup) :
    (∃ b ∈ (relation h shapes (ofDeclarations h ds p)).bindings, b.domain = c ∧ t ∈ b.range) ↔
      ∃ y ∈ ds, y.property = p ∧ h.DomainOf y.domain c ∧
        ∃ i, y.range = some i ∧ h.TargetOf shapes i t := by
  simp only [mem_range_relation_iff, holds_ofDeclarations_iff, Hierarchy.domainOf_iff hu,
    Hierarchy.targetOf_iff hu hn]
  constructor
  · rintro ⟨x, i, ⟨hx, y, hy, hp, rfl, hi⟩, hc, ht⟩
    exact ⟨y, hy, hp, ⟨hx, hc⟩, i, hi i rfl, ht⟩
  · rintro ⟨y, hy, hp, ⟨hx, hc⟩, i, hi, ht⟩
    exact ⟨y.domain, i, ⟨hx, y, hy, hp, rfl, by simpa using hi⟩, hc, ht⟩

end RelationDraft

/-! ## Declarations -/

theorem Declaration.ofDataset_eq_ok_iff : Declaration.ofDataset d propertyClass = .ok ds ↔
    ∃ relationships entityProperties, d.relationships = .ok relationships ∧
      d.entityProperties propertyClass = .ok entityProperties ∧
      relationships.map ofRelationship ++ d.shapeRelations.map ofShape ++
        entityProperties.map ofRelationship = ds := by
  rw [ofDataset_eq]
  constructor
  · intro hds
    obtain ⟨relationships, hrelationships, hds⟩ := bind_eq_ok hds
    obtain ⟨entityProperties, hentityProperties, hds⟩ := bind_eq_ok hds
    exact ⟨relationships, entityProperties, hrelationships, hentityProperties, Except.ok.inj hds⟩
  · rintro ⟨relationships, entityProperties, hrelationships, hentityProperties, rfl⟩
    rw [hrelationships, hentityProperties]
    rfl

theorem Declaration.mem_ofDataset_iff (hds : Declaration.ofDataset d propertyClass = .ok ds)
    {y : Declaration} : y ∈ ds ↔ Declaration.DeclaredIn d propertyClass y := by
  obtain ⟨relationships, entityProperties, hrelationships, hentityProperties, rfl⟩ :=
    ofDataset_eq_ok_iff.1 hds
  simp only [List.mem_append, List.mem_map, Dataset.mem_relationshipRows_iff hrelationships,
    Dataset.mem_relationshipRows_iff hentityProperties, Dataset.mem_shapeRelations_iff]
  constructor
  · rintro ((⟨r, hr, rfl⟩ | ⟨r, ⟨shape, m, hr⟩, rfl⟩) | ⟨r, hr, rfl⟩)
    · exact .ofProperty (.inl rfl) hr
    · exact .ofShape hr
    · exact .ofProperty (.inr rfl) hr
  · intro hy
    cases hy with
    | ofProperty hc hr =>
      rcases hc with rfl | rfl
      · exact .inl (.inl ⟨_, hr, rfl⟩)
      · exact .inr ⟨_, hr, rfl⟩
    | ofShape hr => exact .inl (.inr ⟨_, ⟨_, _, hr⟩, rfl⟩)

/-! ## The relations of an ontology -/

namespace RelationRegistry

theorem relations_ofDeclarations (h : Hierarchy) (shapes : ShapeCatalog) (ds : List Declaration) :
    (ofDeclarations h shapes ds).relations = (leading (ds.map Declaration.property)).map fun p =>
      RelationDraft.relation h shapes (RelationDraft.ofDeclarations h ds p) := by
  rw [ofDeclarations, RelationDraft.foldl_add, List.map_map]
  rfl

theorem iri_relation_ofDeclarations (ds : List Declaration) (p : Iri) :
    (RelationDraft.relation h shapes (RelationDraft.ofDeclarations h ds p)).iri = p :=
  RelationDraft.iri_ofDeclarations ds p

theorem nodup_names_ofDeclarations (ds : List Declaration) :
    ((ofDeclarations h shapes ds).relations.map Relation.name).Nodup := by
  rw [relations_ofDeclarations, List.map_map]
  simpa only [Function.comp_def, Relation.name, iri_relation_ofDeclarations] using
    nodup_names_leading (ds.map Declaration.property)

/-- Where no two relations have one name, the relation of a name is the one that has it. -/
theorem get?_eq_some_iff {rs : RelationRegistry} (hn : (rs.relations.map Relation.name).Nodup)
    {name : String} {r : Relation} :
    rs.get? name = some r ↔ r ∈ rs.relations ∧ r.name = name := by
  refine ⟨mem_relations_of_get?, ?_⟩
  rintro ⟨hr, rfl⟩
  obtain ⟨n, hat⟩ := List.mem_iff_getElem?.1 hr
  have hplace : rs.nameIndex.get? r.name = some n := by
    rw [nameIndex_eq, Index.get?_last_eq_some_iff_of_nodup hn, List.getElem?_map, hat]
    rfl
  rw [get?, hplace, Option.bind_some, hat]

theorem get?_eq_find? {rs : RelationRegistry} (hn : (rs.relations.map Relation.name).Nodup)
    (name : String) : rs.get? name = rs.relations.find? (·.name = name) := by
  ext r
  rw [get?_eq_some_iff hn, find?_eq_some_iff_of_inj (List.inj_on_of_nodup_map hn)]

/-- The relation of a name is the one of the first property that has it. -/
theorem get?_ofDeclarations (ds : List Declaration) (name : String) :
    (ofDeclarations h shapes ds).get? name =
      ((ds.map Declaration.property).find? (·.name = name)).map fun p =>
        RelationDraft.relation h shapes (RelationDraft.ofDeclarations h ds p) := by
  rw [get?_eq_find? (nodup_names_ofDeclarations ds), relations_ofDeclarations, List.find?_map,
    ← find?_leading]
  simp only [Function.comp_def, Relation.name, iri_relation_ofDeclarations]

/-- The relations of an ontology can be read if the properties that it declares are IRIs. -/
theorem exists_build_iff : (∃ rs, build d h shapes propertyClass = .ok rs) ↔
    ∀ c, c = Vocabulary.objectProperty ∨ c = propertyClass →
      ∀ n : Node, d.Says n Vocabulary.type (.iri c) → ∃ p, n = .iri p := by
  have hread : (∃ rs, build d h shapes propertyClass = .ok rs) ↔
      (∃ rows, d.relationships = .ok rows) ∧
        ∃ rows, d.entityProperties propertyClass = .ok rows := by
    constructor
    · rintro ⟨rs, hb⟩
      obtain ⟨ds, hds, -⟩ := map_eq_ok hb
      obtain ⟨_, _, hrelationships, hentityProperties, -⟩ := Declaration.ofDataset_eq_ok_iff.1 hds
      exact ⟨⟨_, hrelationships⟩, ⟨_, hentityProperties⟩⟩
    · rintro ⟨⟨relationships, hrelationships⟩, ⟨entityProperties, hentityProperties⟩⟩
      rw [build, Declaration.ofDataset_eq_ok_iff.2
        ⟨relationships, entityProperties, hrelationships, hentityProperties, rfl⟩]
      exact ⟨_, rfl⟩
  rw [hread, Dataset.relationships, Dataset.entityProperties, Dataset.exists_relationshipRows_iff,
    Dataset.exists_relationshipRows_iff]
  simp

/-- The relations of an ontology, over the classes and the shapes that have been read from it, can
be read if the properties that it declares are IRIs, and then they are its declarations. -/
theorem bound_as_declared {ns baseName : String} {rootNames extra : List String}
    {policy : HierarchyPolicy} (hh : Hierarchy.build d ns baseName rootNames policy = .ok h)
    (hs : ShapeCatalog.build d propertyClass ns extra = .ok shapes) :
    ((∃ rs, build d h shapes propertyClass = .ok rs) ↔
      ∀ c, c = Vocabulary.objectProperty ∨ c = propertyClass →
        ∀ n : Node, d.Says n Vocabulary.type (.iri c) → ∃ p, n = .iri p) ∧
    ∀ rs, build d h shapes propertyClass = .ok rs → Faithful d propertyClass h shapes rs := by
  refine ⟨exists_build_iff, fun rs hb => ?_⟩
  have hu : h.Unique := (Hierarchy.faithful_of_build hh).unique
  have hn := (ShapeCatalog.faithful_of_build hs).iris_nodup
  obtain ⟨ds, hds, rfl⟩ := map_eq_ok hb
  have hmem : ∀ {y}, y ∈ ds ↔ y.DeclaredIn d propertyClass := Declaration.mem_ofDataset_iff hds
  have hleading : ∀ {r}, r ∈ (ofDeclarations h shapes ds).relations →
      r = RelationDraft.relation h shapes (RelationDraft.ofDeclarations h ds r.iri) := by
    intro r hr
    rw [relations_ofDeclarations] at hr
    obtain ⟨p, -, rfl⟩ := List.mem_map.1 hr
    rw [iri_relation_ofDeclarations]
  constructor
  · exact nodup_names_ofDeclarations ds
  · exact get?_eq_some_iff (nodup_names_ofDeclarations ds)
  · obtain ⟨relationships, entityProperties, hrelationships, hentityProperties, rfl⟩ :=
      Declaration.ofDataset_eq_ok_iff.1 hds
    refine ⟨relationships, entityProperties, hrelationships, hentityProperties, fun name => ?_⟩
    rw [get?_ofDeclarations, Option.map_map]
    simp only [Function.comp_def, iri_relation_ofDeclarations, Option.map_id', List.map_append,
      List.map_map]
    rfl
  · intro r c hr
    rw [hleading hr, iri_relation_ofDeclarations, RelationDraft.mem_domains_ofDeclarations_iff hu]
    simp only [hmem]
  · intro r c t hr
    rw [hleading hr, iri_relation_ofDeclarations,
      RelationDraft.mem_range_ofDeclarations_iff hu hn]
    simp only [hmem]

/-! ## Pumps and tanks -/

/-- An ontology in which pumps feed tanks by a shape, and tanks feed by another property of the same
name. -/
def feedingOntology : Dataset :=
  .ofTriples [
    ⟨.iri ⟨"urn:plant#feeds"⟩, Vocabulary.type, .iri Vocabulary.objectProperty⟩,
    ⟨.iri ⟨"urn:plant#PumpShape"⟩, Vocabulary.type, .iri Shacl.nodeShape⟩,
    ⟨.iri ⟨"urn:plant#PumpShape"⟩, Shacl.targetClass, .iri ⟨"urn:plant#Pump"⟩⟩,
    ⟨.iri ⟨"urn:plant#PumpShape"⟩, Shacl.property, .blank ⟨"p"⟩⟩,
    ⟨.blank ⟨"p"⟩, Shacl.path, .iri ⟨"urn:plant#feeds"⟩⟩,
    ⟨.blank ⟨"p"⟩, Shacl.class, .iri ⟨"urn:plant#Tank"⟩⟩,
    ⟨.iri ⟨"urn:site#feeds"⟩, Vocabulary.type, .iri ⟨"urn:plant#EntityProperty"⟩⟩,
    ⟨.iri ⟨"urn:site#feeds"⟩, Vocabulary.domain, .iri ⟨"urn:plant#Tank"⟩⟩]

def feedingHierarchy : Hierarchy := .ofClasses [
  ⟨⟨"urn:plant#Entity"⟩, some "Entity", none, none, []⟩,
  ⟨⟨"urn:plant#Pump"⟩, some "Pump", none, some ⟨0⟩, []⟩,
  ⟨⟨"urn:plant#Tank"⟩, some "Tank", none, some ⟨0⟩, []⟩]

theorem build_feedingHierarchy : Hierarchy.build feedingOntology "urn:plant#" "Entity"
    ["Pump", "Tank"] .firstWins = .ok feedingHierarchy :=
  Hierarchy.build_eq_ok_of_withRoots (by decide) (by decide +kernel)

theorem build_feedingShapes : ShapeCatalog.build feedingOntology ⟨"urn:plant#EntityProperty"⟩
    "urn:plant#" [] = .ok .empty := by decide +kernel

theorem stated_feeding : ShapeRelationRow.StatedBy feedingOntology (.iri ⟨"urn:plant#PumpShape"⟩)
    (.blank ⟨"p"⟩) ⟨⟨"urn:plant#feeds"⟩, ⟨"urn:plant#Pump"⟩, ⟨"urn:plant#Tank"⟩⟩ where
  typed := by decide
  targetClass := by decide
  property := by decide
  path := by decide
  allowed := .named (by decide)

theorem typed_feeding {n : Node} {c : Iri}
    (hc : c = Vocabulary.objectProperty ∨ c = ⟨"urn:plant#EntityProperty"⟩)
    (hn : feedingOntology.Says n Vocabulary.type (.iri c)) :
    n = .iri ⟨if c = Vocabulary.objectProperty then "urn:plant#feeds" else "urn:site#feeds"⟩ := by
  have hsubjects : ∀ c ∈ [Vocabulary.objectProperty, ⟨"urn:plant#EntityProperty"⟩],
      feedingOntology.defaultSubjects Vocabulary.type (.iri c) =
        [.iri ⟨if c = Vocabulary.objectProperty then "urn:plant#feeds" else "urn:site#feeds"⟩] := by
    decide
  rw [Dataset.Says, ← Dataset.mem_defaultSubjects, hsubjects c (by simpa using hc)] at hn
  exact List.mem_singleton.1 hn

/-- The relation of pumps and tanks is the property between objects, and it is not bound to tanks,
which are the domain of another property of that name. -/
theorem bound_as_declared_feeding : ∃ rs r,
    build feedingOntology feedingHierarchy .empty ⟨"urn:plant#EntityProperty"⟩ = .ok rs ∧
    rs.get? "feeds" = some r ∧ r.iri = ⟨"urn:plant#feeds"⟩ ∧
    (∃ b ∈ r.bindings, b.domain = ⟨1⟩ ∧ .class ⟨2⟩ ∈ b.range) ∧ ⟨2⟩ ∉ r.domains := by
  obtain ⟨hexists, hfaithful⟩ := bound_as_declared build_feedingHierarchy build_feedingShapes
  obtain ⟨rs, hb⟩ := hexists.2 fun c hc n hn => ⟨_, typed_feeding hc hn⟩
  have hf := hfaithful rs hb
  obtain ⟨rows, others, hrows, -, hfirst⟩ := hf.iri_of_get?
  have hproperty : ∀ row ∈ rows, row.property = ⟨"urn:plant#feeds"⟩ := by
    intro row hrow
    have htyped := ((Dataset.mem_relationshipRows_iff hrows).1 hrow).typed
    exact Node.iri.inj (typed_feeding (.inl rfl) htyped)
  have hiri : (rs.get? "feeds").map Relation.iri = some ⟨"urn:plant#feeds"⟩ := by
    have hrow : ⟨⟨"urn:plant#feeds"⟩, none, none⟩ ∈ rows := by
      refine (Dataset.mem_relationshipRows_iff hrows).2 ⟨?_, ⟨none, .absent ?_, rfl⟩,
        ⟨none, .absent ?_, rfl⟩⟩
      · decide +kernel
      · decide +kernel
      · decide +kernel
    rw [hfirst]
    cases hlist : rows with
    | nil => simp [hlist] at hrow
    | cons row rest =>
      have hhead := hproperty row (by simp [hlist])
      rw [List.map_cons, hhead]
      rfl
  obtain ⟨r, hr, hiri⟩ := Option.map_eq_some_iff.1 hiri
  have hmem := (hf.get?_eq_some_iff.1 hr).1
  refine ⟨rs, r, hb, hr, hiri, (hf.mem_range_iff hmem).2 ?_, ?_⟩
  · exact ⟨_, .ofShape stated_feeding, hiri.symm, .registered rfl, _, rfl, .entities rfl⟩
  · rw [hf.mem_domains_iff hmem, hiri]
    rintro ⟨x, hx, hp, hdomain⟩
    cases hx with
    | ofProperty _ hrow =>
      obtain ⟨t, ht, hvalue⟩ := hrow.domain
      have hnil : feedingOntology.defaultObjects (.iri ⟨"urn:plant#feeds"⟩) Vocabulary.domain =
          [] := by decide +kernel
      simp only at hp hdomain
      rw [hp, hnil] at ht
      cases ht with
      | value ht => cases ht
      | absent =>
        rw [hvalue] at hdomain
        cases hdomain
    | ofShape hrow =>
      have htarget : ∀ q ∈ feedingOntology.quads, q.predicate = Shacl.targetClass →
          q.object = .iri ⟨"urn:plant#Pump"⟩ := by decide +kernel
      have hpump := Term.iri.inj (htarget _ hrow.targetClass rfl)
      simp only [hpump] at hdomain
      cases hdomain with
      | registered hc => exact absurd hc (by decide +kernel)

end RelationRegistry

end BuildingModel
