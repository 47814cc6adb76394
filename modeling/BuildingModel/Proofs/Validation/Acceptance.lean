import BuildingModel.Proofs.Graph.Records
import BuildingModel.Proofs.Hierarchy.Growth
import BuildingModel.Proofs.Number.Bounded
import BuildingModel.Proofs.Schema.Parts
import BuildingModel.Proofs.Shape.Catalog
import BuildingModel.Proofs.Shape.Properties
import BuildingModel.Proofs.Validation.Report

/-!
# What is accepted for a record is accepted by the validator

The property shapes of a record shape are read twice: as the fields by which records are built, and
as what the validator asks of their nodes. A field takes one value, of its kind, and takes one at
least if that is required. So the validator finds nothing wrong with the number of values, the
datatype or the membership in an enumeration, if property shapes ask for no more than a field can
tell.
-/
namespace BuildingModel.Validation

open BuildingModel.Rdf BuildingModel.Ontology

variable {o : Dataset} {m : Node} {S i : Iri} {E : PatternEngine}

/-! ## What a field can tell -/

/-- A property shape asks for no more than a field can tell: one value, from one list of members, or
of one datatype that normal forms keep. The path of units has no datatype, and IRIs as members. -/
structure EnforceableProperty (o : Dataset) (m : Node) : Prop where
  minCount : ∀ l k, .literal l ∈ o.objects m Shacl.minCount → countOfText? l.text = some k → k ≤ 1
  maxCount : ∀ l k, .literal l ∈ o.objects m Shacl.maxCount → countOfText? l.text = some k → 1 ≤ k
  members : o.AtMostOne m Shacl.members
  datatype : o.AtMostOne m Shacl.datatype
  datatype_kept : ∀ d, .iri d ∈ o.objects m Shacl.datatype →
    ∀ l : Literal, l.datatype = d → l.normal.datatype = d
  datatype_alone : ∀ d, .iri d ∈ o.objects m Shacl.datatype → o.objects m Shacl.members = []
  path_ne_type : .iri Vocabulary.type ∉ o.objects m Shacl.path
  unit : ∀ p : Iri, .iri p ∈ o.objects m Shacl.path → p.name = "hasUnit" →
    (∀ d, .iri d ∉ o.objects m Shacl.datatype) ∧
      ∀ head ∈ o.objects m Shacl.members, ∀ x ∈ o.members head, ∃ j, x = .iri j

theorem mem_objects_of_iriOf? {p : Iri} (h : iriOf? o m p = some i) : .iri i ∈ o.objects m p := by
  obtain ⟨t, ht, hi⟩ := Option.bind_eq_some_iff.1 h
  obtain rfl := Term.iri?_eq_some_iff.1 hi
  exact Dataset.mem_objects_of_object? ht

/-- A property shape that has been loaded has its path, its bounds and its constraints on datatype
and members from its node. -/
theorem loadProperty_spec {p : PropertyShape} (h : loadProperty o m E = .ok (some p)) :
    iriOf? o m Shacl.path = some p.path ∧
    countOf o m Shacl.minCount = .ok p.minCount ∧
    countOf o m Shacl.maxCount = .ok p.maxCount ∧
    (∀ d, .datatype d ∈ p.constraints ↔ iriOf? o m Shacl.datatype = some d) ∧
    ∀ xs, .members xs ∈ p.constraints →
      elementsOf o m Shacl.members ≠ [] ∧ xs = elementsOf o m Shacl.members := by
  unfold loadProperty at h
  cases hpath : iriOf? o m Shacl.path with
  | none =>
    rw [hpath] at h
    cases h
  | some path =>
    rw [hpath] at h
    obtain ⟨minCount, hminCount, h⟩ := bind_eq_ok h
    obtain ⟨maxCount, hmaxCount, h⟩ := bind_eq_ok h
    obtain ⟨minLength, -, h⟩ := bind_eq_ok h
    obtain ⟨maxLength, -, h⟩ := bind_eq_ok h
    obtain ⟨minInclusive, -, h⟩ := bind_eq_ok h
    obtain ⟨maxInclusive, -, h⟩ := bind_eq_ok h
    obtain ⟨pattern, -, h⟩ := bind_eq_ok h
    cases h
    exact ⟨rfl, hminCount, hmaxCount, fun d => mem_constraintsOf,
      fun xs hxs => mem_constraintsOf.1 hxs⟩

theorem EnforceableProperty.mem_elementsOf_iff (he : EnforceableProperty o m) {x : Term} :
    x ∈ elementsOf o m Shacl.members ↔
      ∃ head ∈ o.objects m Shacl.members, x ∈ o.members head := by
  unfold elementsOf
  cases ho : o.object? m Shacl.members with
  | none =>
    have hnil : o.objects m Shacl.members = [] := List.head?_eq_none_iff.1 ho
    simp [hnil]
  | some head =>
    have hhead := Dataset.mem_objects_of_object? ho
    simp only [Option.map_some, Option.getD_some]
    constructor
    · intro hx
      exact ⟨head, hhead, hx⟩
    · intro ⟨head', hhead', hx⟩
      rwa [he.members head' hhead' head hhead] at hx

/-! ## The values of a field -/

section Value

variable {rows : List ConstraintRow} {p : Iri} {schema : Schema} {s : Session schema}
  {v : FieldValue} {t : Term}

end Value

/-! ## The results for a record -/

theorem exists_node_of_mem_properties {shape : NodeShape} (hload : loadShape o E S = .ok shape)
    {p : PropertyShape} (hp : p ∈ shape.properties) :
    ∃ m : Node, m.term ∈ o.objects (.iri S) Shacl.property ∧ loadProperty o m E = .ok (some p) := by
  obtain ⟨-, -, -, hread, hproperties⟩ := loadShape_spec hload
  rw [hproperties] at hp
  obtain ⟨q, hq, hp⟩ := List.mem_flatMap.1 hp
  obtain ⟨m, hm, hp⟩ := Option.bind_eq_some_iff.1 (Option.mem_toList.1 hp)
  have hobject : m.term ∈ o.objects (.iri S) Shacl.property := by
    rw [← map_object_statementsOf, ← Term.node?_eq_some_iff.1 hm]
    exact List.mem_map_of_mem hq
  exact ⟨m, hobject, by rw [hread m hobject, hp]⟩

section Record

variable {rows : List ConstraintRow} {p : PropertyShape} {schema : Schema} {s : Session schema}
  {ts : List Triple} {id : RecordId} {r : Record}

end Record

/-- An ontology with a shape of ratings, which have one decimal number for their value. -/
def ratingStatements : List Triple :=
  [⟨.iri ⟨"urn:b#Rating"⟩, Vocabulary.type, .iri Shacl.nodeShape⟩,
    ⟨.iri ⟨"urn:b#Rating"⟩, Shacl.property, .blank ⟨"p"⟩⟩,
    ⟨.blank ⟨"p"⟩, Shacl.path, .iri ⟨"urn:b#value"⟩⟩,
    ⟨.blank ⟨"p"⟩, Shacl.minCount, .literal (.typed "1" Xsd.integer)⟩,
    ⟨.blank ⟨"p"⟩, Shacl.maxCount, .literal (.typed "1" Xsd.integer)⟩,
    ⟨.blank ⟨"p"⟩, Shacl.datatype, .iri Xsd.decimal⟩]

def ratingOntology : Dataset := .ofTriples ratingStatements

/-- The settings under which the shape of ratings is compiled. -/
def ratingSettings : Settings :=
  { Settings.standard with
    ns := "urn:b#", roots := [], extraShapes := ["Rating"], loadUnits := false }

def ratingShape : RecordShape :=
  ⟨⟨"urn:b#Rating"⟩, [⟨⟨"urn:b#value"⟩, .scalar Xsd.decimal, true⟩]⟩

def ratingNodeShape : NodeShape where
  id := ⟨"urn:b#Rating"⟩
  targetClasses := []
  targetNodes := []
  properties := [⟨⟨"urn:b#value"⟩, some 1, some 1, [.datatype Xsd.decimal], none, none⟩]
  severity := .violation

def ratingSchema : Schema where
  settings := ratingSettings
  hierarchy := .ofClasses [⟨⟨"urn:b#Entity"⟩, some "Entity", none, none, []⟩]
  relations := .ofRelations []
  shapes := .ofShapes [ratingShape]
  units := .empty
  validator := ShapeValidator.graphValidator ⟨ratingOntology, [ratingNodeShape]⟩

theorem build_ratingHierarchy : Hierarchy.build ratingOntology "urn:b#" "Entity" [] .firstWins =
    .ok ratingSchema.hierarchy :=
  Hierarchy.build_eq_ok_of_withRoots (by decide) (by decide)

theorem ofDataset_ratingOntology :
    ShapeValidator.ofDataset ratingOntology = .ok ⟨ratingOntology, [ratingNodeShape]⟩ := by
  have hload : loadShapes ratingOntology .expressions = .ok [ratingNodeShape] :=
    loadShapes_of_single (by rfl)
  rw [ShapeValidator.ofDataset, hload]
  rfl

end BuildingModel.Validation
