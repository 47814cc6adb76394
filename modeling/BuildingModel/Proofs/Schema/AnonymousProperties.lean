import BuildingModel.Proofs.Rdf.Additions
import BuildingModel.Proofs.Schema.Buildable
import BuildingModel.Proofs.Schema.EntryOrder
import BuildingModel.Proofs.Validation.Declared

/-!
# Anonymous properties

A blank node may be a property, say the inverse of one that has a name. Such additions to an
ontology leave its classes, its units, its record shapes and the shapes of its validator as they
are: what is asked for these keeps nothing but IRIs, or asks for what is not said of an anonymous
property. The rows of properties keep all nodes, and each has to name its property. So an ontology
with an anonymous property has no schema.
-/
namespace BuildingModel

open BuildingModel.Rdf BuildingModel.Ontology BuildingModel.Validation

/-- The property that has the statements of another one the other way round. -/
def Rdf.Vocabulary.inverseOf : Iri := ⟨"http://www.w3.org/2002/07/owl#inverseOf"⟩

/-- What is said of an anonymous property. -/
def anonymousPredicates : List Iri := [Vocabulary.type, Vocabulary.domain, Vocabulary.inverseOf]

variable {d d' : Dataset}

/-! ## What does not ask for properties -/

theorem not_mem_anonymousPredicates :
    ∀ p ∈ propertyPredicates, p ∉ anonymousPredicates := by decide

section Additions

variable (h : Dataset.AddsNewBlanks anonymousPredicates d d')
include h

namespace Rdf.Dataset.AddsNewBlanks

theorem subclasses_eq : d'.subclasses = d.subclasses := by
  funext i
  simp only [subclasses_eq_map, subclassIris, leastText?, h.iris_defaultSubjects_eq,
    h.defaultObjects_iri_eq]

theorem unitRows_eq : d'.unitRows = d.unitRows := by
  simp only [unitRows, unitAnswers, h.iris_defaultSubjects_eq, h.defaultObjects_iri_eq]

theorem isNodeShape_eq : d'.isNodeShape = d.isNodeShape := by
  funext i
  simp only [isNodeShape, ← mem_defaultObjects, h.defaultObjects_iri_eq]

theorem propertyRows_eq (i : Iri) : d'.propertyRows i = d.propertyRows i := by
  have hterm : ∀ p ∈ propertyPredicates, ∀ t, d'.objectsOfTerm t p = d.objectsOfTerm t p :=
    fun p hp => h.objectsOfTerm_eq (not_mem_anonymousPredicates p hp)
  have hanswers : d'.propertyAnswers i = d.propertyAnswers i := by
    simp (disch := decide) only [propertyAnswers, h.defaultObjects_iri_eq, hterm]
  rw [propertyRows, propertyRows, hanswers]

theorem anonymous_members_eq : d'.members = d.members :=
  funext (h.members_eq (by decide) (by decide))

end Rdf.Dataset.AddsNewBlanks

namespace ShapeCatalog

theorem shapeConstraints_eq_of_adds : shapeConstraints d' = shapeConstraints d := by
  funext i
  have hrows : constraintRows d' = constraintRows d := by
    funext r
    rw [constraintRows, constraintRows, h.anonymous_members_eq]
  rw [shapeConstraints, shapeConstraints, h.propertyRows_eq, hrows]

theorem compile_eq_of_adds : compile d' = compile d := by
  funext c i
  rw [compile, compile, shapeConstraints_eq_of_adds h]

theorem compileExtra_eq_of_adds (ns : String) : compileExtra d' ns = compileExtra d ns := by
  funext c name
  rw [compileExtra, compileExtra, h.isNodeShape_eq, compile_eq_of_adds h]

end ShapeCatalog

namespace Validation

theorem loadProperty_eq_of_adds : loadProperty d' = loadProperty d := by
  have hobject : ∀ p ∈ propertyPredicates, ∀ n, d'.object? n p = d.object? n p :=
    fun p hp => h.object?_eq (not_mem_anonymousPredicates p hp)
  funext n E
  simp (disch := decide) only [loadProperty, iriOf?, countOf, numberOf, patternOf, textOf?,
    elementsOf, alternativesOf, h.anonymous_members_eq, hobject]

theorem loadProperties_eq_of_adds (E : PatternEngine) (ns : List Node) :
    loadProperties d' E ns = loadProperties d E ns := by
  induction ns with
  | nil => rfl
  | cons n ns ih => rw [loadProperties, loadProperties, loadProperty_eq_of_adds h, ih]

theorem loadShape_eq_of_adds : loadShape d' = loadShape d := by
  funext E i
  simp only [loadShape, iriOf?, Dataset.object?, h.objects_iri_eq, loadProperties_eq_of_adds h E]

theorem loadShapes_eq_of_adds : loadShapes d' = loadShapes d := by
  funext E
  have hshapes : ∀ is, loadShapesOf d' E is = loadShapesOf d E is := by
    intro is
    induction is with
    | nil => rfl
    | cons i is ih => rw [loadShapesOf, loadShapesOf, loadShape_eq_of_adds h, ih]
  rw [loadShapes, loadShapes, shapeIris, shapeIris, h.iris_subjects_eq, hshapes]

end Validation

namespace Hierarchy

theorem pendingBelow_eq_of_adds : pendingBelow d' = pendingBelow d := by
  funext c i
  rw [pendingBelow, pendingBelow, h.subclasses_eq]

theorem grow_eq_of_adds {policy : HierarchyPolicy} {h₀ : Hierarchy}
    {pending pending' : List Pending}
    (hpending : pending' = pending) (declared : ∀ x ∈ pending, x.2.iri ∈ declaredIris d)
    (declared' : ∀ x ∈ pending', x.2.iri ∈ declaredIris d') :
    grow d' policy h₀ pending' declared' = grow d policy h₀ pending declared := by
  subst hpending
  fun_induction grow d policy h₀ pending' declared with
  | case1 h₀ => rw [grow]
  | case2 h₀ p row later declared c hc e ha => rw [grow_of_refused hc ha]
  | case3 h₀ p row later declared c hc h₁ ha _ ih =>
    exact grow_of_known hc ha fun later' => ih later'
  | case4 h₀ p row later declared hn _ ih =>
    exact grow_of_registered hn (by rw [pendingBelow_eq_of_adds h]) fun later' => ih later'

/-- A hierarchy is built from subclasses, and these are the same. -/
theorem build_eq_of_adds (ns baseName : String) (rootNames : List String)
    (policy : HierarchyPolicy) :
    build d' ns baseName rootNames policy = build d ns baseName rootNames policy := by
  unfold build
  congr 1
  funext h₀
  refine grow_eq_of_adds h ?_ _ _
  rw [pendingRoots, pendingRoots, pendingBelow_eq_of_adds h]

end Hierarchy

/-! ## What asks for properties as well -/

namespace Rdf.Dataset.AddsNewBlanks

theorem says_of_subject {s : Node} {p q : Iri} {o x : Term} (hs : d'.Says s p o)
    (hx : d.Says s q x) : d.Says s p o :=
  h.mem_of_subject hs hx rfl

theorem says_iff {p : Iri} (hp : p ∉ anonymousPredicates) {s : Node} {o : Term} :
    d'.Says s p o ↔ d.Says s p o := by
  rw [Says, Says, ← mem_defaultObjects, h.defaultObjects_eq hp, mem_defaultObjects]

/-- An anonymous property has no range, so that no shape is reached from it. -/
theorem entityPropertyShapes_eq (c : Iri) :
    d'.entityPropertyShapes c = d.entityPropertyShapes c := by
  apply sortIris_eq_of_perm
  rw [List.perm_ext_iff_of_nodup (nodup_distinct _) (nodup_distinct _)]
  intro i
  simp (disch := decide) only [mem_distinct, List.mem_filter, List.mem_flatMap, List.mem_filterMap,
    mem_defaultSubjects, h.isNodeShape_eq, h.defaultObjects_eq]
  refine and_congr_left fun _ => exists_congr fun n => and_congr_left ?_
  rintro ⟨t, ht, -⟩
  constructor
  · intro htyped
    exact h.says_of_subject htyped (mem_defaultObjects.1 ht)
  · exact h.mem_of_mem

/-- Nor does an anonymous property have a target class. -/
theorem shapeRelations_eq : d'.shapeRelations = d.shapeRelations := by
  apply shapeRelations_eq_of_mem
  intro r
  rw [mem_shapeRelations_iff, mem_shapeRelations_iff]
  refine exists₂_congr fun shape m => ?_
  have hallows : ∀ p ∈ [Shacl.class, Shacl.alternatives, Vocabulary.rest, Vocabulary.first],
      p ∉ anonymousPredicates := by decide
  constructor
  · intro hr
    have htarget := (h.says_iff (by decide)).1 hr.targetClass
    exact ⟨h.says_of_subject hr.typed htarget, htarget, (h.says_iff (by decide)).1 hr.property,
      (h.says_iff (by decide)).1 hr.path,
      hr.allowed.mono fun p hp s o => (h.says_iff (hallows p hp)).1⟩
  · intro hr
    exact ⟨h.mem_of_mem hr.typed, h.mem_of_mem hr.targetClass, h.mem_of_mem hr.property,
      h.mem_of_mem hr.path, hr.allowed.mono fun _ _ _ _ => h.mem_of_mem⟩

end Rdf.Dataset.AddsNewBlanks

theorem ShapeCatalog.build_eq_of_adds (c : Iri) (ns : String) (extra : List String) :
    build d' c ns extra = build d c ns extra := by
  rw [build, build, h.entityPropertyShapes_eq, compile_eq_of_adds h, compileExtra_eq_of_adds h]

theorem Schema.unitsOf_eq_of_adds (settings : Settings) :
    unitsOf d' settings = unitsOf d settings := by
  rw [unitsOf, unitsOf, h.unitRows_eq]

end Additions

/-! ## Rows of properties -/

/-- What is said of a property that is a blank node. -/
def anonymousFault : BindingError := .kindMismatch "prop" "IRI" "BlankNode"

namespace Rdf.Dataset

theorem decode_of_mem_answersOf_blank {b : BlankNode} {s : Solution}
    (hs : s ∈ d.answersOf (.blank b)) : RelationshipRow.decode s = .error anonymousFault := by
  obtain ⟨domain, -, hs⟩ := List.mem_flatMap.1 hs
  obtain ⟨range, -, rfl⟩ := List.mem_map.1 hs
  exact decode_relationshipAnswer_eq _ _ _

end Rdf.Dataset

namespace Rdf.Dataset.AddsNewBlanks

variable (h : AddsNewBlanks anonymousPredicates d d') {c : Iri}
include h

/-- Anonymous properties come first among the instances of a class. The answers of the others stay
as they are. -/
theorem exists_typedProperties_eq
    (hiris : ∀ n, d.Says n Vocabulary.type (.iri c) → ∃ i, n = .iri i) :
    ∃ ss, d'.typedProperties c = ss ++ d.typedProperties c ∧
      (∀ s ∈ ss, RelationshipRow.decode s = .error anonymousFault) ∧
      (ss = [] ↔ ∀ b, ¬ d'.Says (.blank b) Vocabulary.type (.iri c)) := by
  obtain ⟨bs, hsorted, hbs⟩ := exists_sortNodes_eq
    (h.iris_defaultSubjects_eq Vocabulary.type (.iri c))
    fun n hn => hiris n (mem_defaultSubjects.1 hn)
  have hothers : (sortNodes (d.defaultSubjects Vocabulary.type (.iri c))).flatMap d'.answersOf =
      d.typedProperties c := by
    refine List.flatMap_congr fun n hn => ?_
    obtain ⟨i, rfl⟩ := hiris n (mem_defaultSubjects.1 (mem_sortNodes.1 hn))
    simp only [answersOf, h.defaultObjects_iri_eq]
    rfl
  refine ⟨(bs.map Node.blank).flatMap d'.answersOf, ?_, ?_, ?_⟩
  · rw [typedProperties_eq_flatMap, hsorted, List.flatMap_append, hothers]
  · intro s hs
    obtain ⟨n, hn, hs⟩ := List.mem_flatMap.1 hs
    obtain ⟨b, -, rfl⟩ := List.mem_map.1 hn
    exact decode_of_mem_answersOf_blank hs
  · have hnone : (bs.map Node.blank).flatMap d'.answersOf = [] ↔ bs = [] := by
      cases bs <;> simp [answersOf_ne_nil]
    rw [hnone, List.eq_nil_iff_forall_not_mem]
    simp only [hbs, mem_defaultSubjects, Says]

end Rdf.Dataset.AddsNewBlanks

/-! ## Schemas -/

/-- The report on anonymous properties that are the first rows. -/
def anonymousFaults (count : ℕ) : List RowFault :=
  (List.range count).map fun row => ⟨row, anonymousFault⟩

/-- A blank node occurs nowhere in a dataset. -/
def Rdf.Dataset.Fresh (d : Dataset) (b : BlankNode) : Prop :=
  ∀ q ∈ d, q.subject ≠ .blank b ∧ q.object ≠ .blank b ∧ q.graph ≠ some (.blank b)

/-- A statement makes a fresh blank node a property, or gives it a domain or an inverse. -/
inductive AnonymousProperty (d : Dataset) (propertyClass : Iri) : Triple → Prop
  | typed {b : BlankNode} {c : Iri} (hb : d.Fresh b)
      (hc : c = Vocabulary.objectProperty ∨ c = propertyClass) :
      AnonymousProperty d propertyClass ⟨.blank b, Vocabulary.type, .iri c⟩
  | domain {b : BlankNode} {i : Iri} (hb : d.Fresh b) :
      AnonymousProperty d propertyClass ⟨.blank b, Vocabulary.domain, .iri i⟩
  | inverse {b : BlankNode} {i : Iri} (hb : d.Fresh b) :
      AnonymousProperty d propertyClass ⟨.blank b, Vocabulary.inverseOf, .iri i⟩

namespace AnonymousProperty

variable {propertyClass : Iri} {t : Triple}

theorem subject (ht : AnonymousProperty d propertyClass t) :
    ∃ b, t.subject = .blank b ∧ d.Fresh b := by
  cases ht with
  | typed hb _ => exact ⟨_, rfl, hb⟩
  | domain hb => exact ⟨_, rfl, hb⟩
  | inverse hb => exact ⟨_, rfl, hb⟩

theorem predicate_mem (ht : AnonymousProperty d propertyClass t) :
    t.predicate ∈ anonymousPredicates := by
  cases ht <;> simp [anonymousPredicates]

/-- A blank node is made a property by its type. -/
theorem eq_of_type (ht : AnonymousProperty d propertyClass t)
    (htype : t.predicate = Vocabulary.type) :
    ∃ c, (c = Vocabulary.objectProperty ∨ c = propertyClass) ∧
      ∃ b, t = ⟨.blank b, Vocabulary.type, .iri c⟩ := by
  cases ht with
  | typed hb hc => exact ⟨_, hc, _, rfl⟩
  | domain hb => exact absurd htype (show Vocabulary.domain ≠ Vocabulary.type by decide)
  | inverse hb => exact absurd htype (show Vocabulary.inverseOf ≠ Vocabulary.type by decide)

end AnonymousProperty

section Rows

variable (h : Dataset.AddsNewBlanks anonymousPredicates d d') {c : Iri}
include h

/-- The rows of a class of properties are the same, unless some of its instances are anonymous. -/
theorem decodeAll_typedProperties {rows : List RelationshipRow}
    (hrows : decodeAll RelationshipRow.decode (d.typedProperties c) = .ok rows) :
    ((∀ b, ¬ d'.Says (.blank b) Vocabulary.type (.iri c)) →
      decodeAll RelationshipRow.decode (d'.typedProperties c) = .ok rows) ∧
    ((∃ b, d'.Says (.blank b) Vocabulary.type (.iri c)) →
      ∃ count, 0 < count ∧ decodeAll RelationshipRow.decode (d'.typedProperties c) =
        .error (anonymousFaults count)) := by
  obtain ⟨ss, htyped, herror, hnil⟩ :=
    h.exists_typedProperties_eq (Dataset.exists_relationshipRows_iff.1 ⟨rows, hrows⟩)
  rw [htyped]
  constructor
  · intro hnone
    rwa [hnil.2 hnone, List.nil_append]
  · rintro ⟨b, hb⟩
    have hne : ss ≠ [] := fun heq => hnil.1 heq b hb
    exact ⟨ss.length, List.length_pos_iff.2 hne, decodeAll_append_error herror hne hrows⟩

namespace RelationRegistry

variable {h₀ : Hierarchy} {shapes : ShapeCatalog} {rs : RelationRegistry}

theorem build_eq_ok_of_adds (hb : build d h₀ shapes c = .ok rs)
    (hnone : ∀ c', c' = Vocabulary.objectProperty ∨ c' = c →
      ∀ b, ¬ d'.Says (.blank b) Vocabulary.type (.iri c')) : build d' h₀ shapes c = .ok rs := by
  obtain ⟨ds, hds, rfl⟩ := map_eq_ok hb
  obtain ⟨relationships, entityProperties, hrelationships, hentityProperties, rfl⟩ :=
    Declaration.ofDataset_eq_ok_iff.1 hds
  have hrelationships' : d'.relationships = .ok relationships :=
    (decodeAll_typedProperties h hrelationships).1 (hnone _ (.inl rfl))
  have hentityProperties' : d'.entityProperties c = .ok entityProperties :=
    (decodeAll_typedProperties h hentityProperties).1 (hnone _ (.inr rfl))
  rw [build, Declaration.ofDataset_eq_ok_iff.2
    ⟨relationships, entityProperties, hrelationships', hentityProperties', rfl⟩,
    h.shapeRelations_eq]
  rfl

theorem build_eq_error_of_adds (hb : build d h₀ shapes c = .ok rs)
    (hsome : ∃ c', (c' = Vocabulary.objectProperty ∨ c' = c) ∧
      ∃ b, d'.Says (.blank b) Vocabulary.type (.iri c')) :
    ∃ count, 0 < count ∧ build d' h₀ shapes c = .error (anonymousFaults count) := by
  have hread : ∀ c', c' = Vocabulary.objectProperty ∨ c' = c →
      ∃ rows, decodeAll RelationshipRow.decode (d.typedProperties c') = .ok rows :=
    fun c' hc => Dataset.exists_relationshipRows_iff.2 (exists_build_iff.1 ⟨rs, hb⟩ c' hc)
  obtain ⟨relationships, hrelationships⟩ := hread _ (.inl rfl)
  obtain ⟨entityProperties, hentityProperties⟩ := hread _ (.inr rfl)
  by_cases hobject : ∃ b, d'.Says (.blank b) Vocabulary.type (.iri Vocabulary.objectProperty)
  · obtain ⟨count, hpos, herror⟩ := (decodeAll_typedProperties h hrelationships).2 hobject
    refine ⟨count, hpos, ?_⟩
    rw [build, Declaration.ofDataset_eq, Dataset.relationships, herror]
    rfl
  · have hrelationships' : d'.relationships = .ok relationships :=
      (decodeAll_typedProperties h hrelationships).1 (not_exists.1 hobject)
    obtain ⟨c', rfl | rfl, hblank⟩ := hsome
    · exact absurd hblank hobject
    · obtain ⟨count, hpos, herror⟩ := (decodeAll_typedProperties h hentityProperties).2 hblank
      refine ⟨count, hpos, ?_⟩
      rw [build, Declaration.ofDataset_eq, hrelationships', Dataset.entityProperties, herror]
      rfl

end RelationRegistry

end Rows

namespace Schema

variable {settings : Settings} {E : PatternEngine} {schema : Schema} {propertyClass : Iri}
  {ts : List Triple}

section Statements

variable (hts : ∀ t ∈ ts, AnonymousProperty d propertyClass t)
include hts

theorem addsNewBlanks_of_anonymous :
    Dataset.AddsNewBlanks anonymousPredicates d (d.insertAll (ts.map Triple.inDefault)) := by
  apply Dataset.addsNewBlanks_insertAll
  intro q hq
  obtain ⟨t, ht, rfl⟩ := List.mem_map.1 hq
  obtain ⟨b, hsubject, hb⟩ := (hts t ht).subject
  exact ⟨(hts t ht).predicate_mem, b, hsubject, fun r hr => (hb r hr).1⟩

/-- A statement of a type is what makes a blank node a property. -/
theorem exists_blank_property {t : Triple} (ht : t ∈ ts) (htype : t.predicate = Vocabulary.type) :
    ∃ c, (c = Vocabulary.objectProperty ∨ c = propertyClass) ∧
      ∃ b, (d.insertAll (ts.map Triple.inDefault)).Says (.blank b) Vocabulary.type (.iri c) := by
  have hmem : t.inDefault.normal ∈ d.insertAll (ts.map Triple.inDefault) :=
    Dataset.mem_insertAll.2 (.inl (List.mem_map_of_mem (List.mem_map_of_mem ht)))
  obtain ⟨c, hc, b, rfl⟩ := (hts t ht).eq_of_type htype
  exact ⟨c, hc, b, hmem⟩

end Statements

/-- Without statements of types no type is added. -/
theorem type_of_insertAll {n : Node} {o : Term} (hnone : ∀ t ∈ ts, t.predicate ≠ Vocabulary.type)
    (hn : (d.insertAll (ts.map Triple.inDefault)).Says n Vocabulary.type o) :
    d.Says n Vocabulary.type o := by
  rcases Dataset.mem_insertAll.1 hn with hnew | hold
  · obtain ⟨q, hq, heq⟩ := List.mem_map.1 hnew
    obtain ⟨t, ht, rfl⟩ := List.mem_map.1 hq
    exact absurd (congrArg (·.predicate) heq) (hnone t ht)
  · exact hold

/-- Where all that comes before the relations can be built, their faults are those of the schema. -/
theorem build_eq_error_of_relations {h₀ : Hierarchy} {units : UnitCatalog} {shapes : ShapeCatalog}
    {faults : List RowFault} (hclass : propertyClassOf settings = .ok propertyClass)
    (hhierarchy : Hierarchy.build d settings.ns settings.baseClass settings.roots
      settings.hierarchy = .ok h₀) (hunits : unitsOf d settings = .ok units)
    (hshapes : ShapeCatalog.build d propertyClass settings.ns settings.extraShapes = .ok shapes)
    (hrelations : RelationRegistry.build d h₀ shapes propertyClass = .error faults) :
    build d settings E = .error (.ofRows faults) := by
  simp only [build, bind, Except.bind, mapError_ok, hclass, hhierarchy, hunits, hshapes, hrelations]
  rfl

theorem ofDataset_of_adds (h : Dataset.AddsNewBlanks anonymousPredicates d d')
    {validator : ShapeValidator} (hloaded : ShapeValidator.ofDataset d E = .ok validator) :
    ShapeValidator.ofDataset d' E = .ok ⟨d', validator.shapes⟩ := by
  obtain ⟨shapes, hload, rfl⟩ := map_eq_ok hloaded
  rw [ShapeValidator.ofDataset, loadShapes_eq_of_adds h, hload]
  rfl

/-- Where anonymous properties are added, classes, shapes and units stay as they are, and so do the
shapes of the validator. But if one of the additions makes a blank node a property, then there is no
schema: the rows of the anonymous properties are reported, which come first. If they give domains
and inverses only, then the schema is the same. -/
theorem anonymous_properties_refused (hb : build d settings E = .ok schema)
    (hts : ∀ t ∈ ts, AnonymousProperty d (propertyClassIri settings) t) :
    let d' := d.insertAll (ts.map Triple.inDefault)
    (Hierarchy.build d' settings.ns settings.baseClass settings.roots settings.hierarchy =
        .ok schema.hierarchy ∧
      unitsOf d' settings = .ok schema.units ∧
      ShapeCatalog.build d' (propertyClassIri settings) settings.ns settings.extraShapes =
        .ok schema.shapes ∧
      loadShapes d' = loadShapes d) ∧
    ((∃ t ∈ ts, t.predicate = Vocabulary.type) → ∃ count, 0 < count ∧
      build d' settings E = .error (.ofRows (anonymousFaults count))) ∧
    ((∀ t ∈ ts, t.predicate ≠ Vocabulary.type) → ∃ schema', build d' settings E = .ok schema' ∧
      schema'.hierarchy = schema.hierarchy ∧ schema'.relations = schema.relations ∧
      schema'.shapes = schema.shapes ∧ schema'.units = schema.units) := by
  intro d'
  have h : Dataset.AddsNewBlanks anonymousPredicates d d' := addsNewBlanks_of_anonymous hts
  obtain ⟨c, validator, hparts⟩ := parts_of_build hb
  obtain ⟨-, rfl⟩ := propertyClassOf_eq_ok_iff.1 hparts.class_eq
  have hhierarchy := (Hierarchy.build_eq_of_adds h _ _ _ _).trans hparts.hierarchy
  have hunits := (unitsOf_eq_of_adds h settings).trans hparts.units
  have hshapes := (ShapeCatalog.build_eq_of_adds h _ _ _).trans hparts.shapes
  refine ⟨⟨hhierarchy, hunits, hshapes, loadShapes_eq_of_adds h⟩, ?_, ?_⟩
  · rintro ⟨t, ht, htype⟩
    obtain ⟨count, hpos, hrelations⟩ := RelationRegistry.build_eq_error_of_adds h
      hparts.relations (exists_blank_property hts ht htype)
    exact ⟨count, hpos,
      build_eq_error_of_relations hparts.class_eq hhierarchy hunits hshapes hrelations⟩
  · intro hnone
    have hrelations : RelationRegistry.build d' schema.hierarchy schema.shapes
        (propertyClassIri settings) = .ok schema.relations := by
      refine RelationRegistry.build_eq_ok_of_adds h hparts.relations fun c' hc b hblank => ?_
      obtain ⟨i, hi⟩ := RelationRegistry.exists_build_iff.1 ⟨_, hparts.relations⟩ c' hc _
        (type_of_insertAll hnone hblank)
      cases hi
    have hparts' : Parts d' settings E { schema with
        validator := ShapeValidator.graphValidator ⟨d', validator.shapes⟩ } _ _ :=
      ⟨hparts.settings_eq, hparts.class_eq, hhierarchy, hunits, hshapes, hrelations,
        ofDataset_of_adds h hparts.loaded, rfl⟩
    exact ⟨_, hparts'.build_eq_ok, rfl, rfl, rfl, rfl⟩

/-! ## What feeds fans -/

/-- What feeds the other way round, without a name. -/
def fedByStatements : List Triple := [
  ⟨.blank ⟨"fedBy"⟩, Vocabulary.type, .iri Vocabulary.objectProperty⟩,
  ⟨.blank ⟨"fedBy"⟩, Vocabulary.inverseOf, .iri ⟨"urn:plant#feeds"⟩⟩]

theorem fresh_fedBy : fanOntology.Fresh ⟨"fedBy"⟩ := by
  have hfresh : ∀ q ∈ fanOntology.quads, q.subject ≠ .blank ⟨"fedBy"⟩ ∧
      q.object ≠ .blank ⟨"fedBy"⟩ ∧ q.graph ≠ some (.blank ⟨"fedBy"⟩) := by decide
  exact hfresh

theorem anonymous_fedBy :
    ∀ t ∈ fedByStatements, AnonymousProperty fanOntology (propertyClassIri fanSettings) t := by
  intro t ht
  simp only [fedByStatements, List.mem_cons, List.not_mem_nil, or_false] at ht
  rcases ht with rfl | rfl
  · exact .typed fresh_fedBy (.inl rfl)
  · exact .inverse fresh_fedBy

/-- The inverse of what feeds has no name, and with it the ontology has no schema any more. -/
theorem anonymous_inverse_refused :
    build fanOntology fanSettings = .ok fanSchema ∧
    (∀ t ∈ fedByStatements, AnonymousProperty fanOntology (propertyClassIri fanSettings) t) ∧
    ¬ ∃ schema, build (fanOntology.insertAll (fedByStatements.map Triple.inDefault)) fanSettings =
      .ok schema := by
  refine ⟨build_fanSchema, anonymous_fedBy, fun hexists => ?_⟩
  obtain ⟨_, _, _, _, _, _, _, hrelations, _⟩ := exists_build_iff_parts.1 hexists
  obtain ⟨i, hi⟩ := RelationRegistry.exists_build_iff.1 hrelations _ (.inl rfl)
    (.blank ⟨"fedBy"⟩) (by decide +kernel)
  cases hi

/-- The inverse is refused as a property, but an inverse of nothing that is a property is not. -/
theorem anonymous_properties_of_fans :
    (∃ count, 0 < count ∧
      build (fanOntology.insertAll (fedByStatements.map Triple.inDefault)) fanSettings =
        .error (.ofRows (anonymousFaults count))) ∧
    ∃ schema, build (fanOntology.insertAll (fedByStatements.tail.map Triple.inDefault))
        fanSettings = .ok schema ∧ schema.relations = fanSchema.relations := by
  obtain ⟨-, hrefused, -⟩ := anonymous_properties_refused build_fanSchema anonymous_fedBy
  obtain ⟨-, -, hbuilt⟩ := anonymous_properties_refused build_fanSchema
    fun t ht => anonymous_fedBy t (List.mem_of_mem_tail ht)
  constructor
  · exact hrefused ⟨_, List.mem_cons_self, rfl⟩
  · have huntyped : ∀ t ∈ fedByStatements.tail, t.predicate ≠ Vocabulary.type := by decide
    obtain ⟨schema, hb, -, hrelations, -⟩ := hbuilt huntyped
    exact ⟨schema, hb, hrelations⟩

end Schema

end BuildingModel
