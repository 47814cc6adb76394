import BuildingModel.Index
import BuildingModel.Relation.Binding

/-!
# The relations of an ontology

Declarations come from properties between objects, from node shapes and from entity properties, in
this order. Properties that share a local name make one relation, for which the first property
counts alone.
-/
namespace BuildingModel

open BuildingModel.Rdf BuildingModel.Ontology

/-- A declared domain and range of a property; without a domain it is the base class. -/
structure Declaration where
  property : Iri
  domain : Option Iri
  range : Option Iri
  deriving DecidableEq, Repr

namespace Declaration

def ofRelationship (r : RelationshipRow) : Declaration := ⟨r.property, r.domain, r.range⟩

def ofShape (r : ShapeRelationRow) : Declaration := ⟨r.path, some r.targetClass, some r.allowed⟩

def ofDataset (d : Dataset) (propertyClass : Iri) : Except (List RowFault) (List Declaration) := do
  let relationships ← d.relationships
  let shapeRelations ← decodeAll ShapeRelationRow.decode d.shapeRelationAnswers
  let entityProperties ← d.entityProperties propertyClass
  return relationships.map ofRelationship ++ shapeRelations.map ofShape ++
    entityProperties.map ofRelationship

/-- What shapes say of relations can always be read. -/
theorem ofDataset_eq (d : Dataset) (propertyClass : Iri) :
    ofDataset d propertyClass = do
      let relationships ← d.relationships
      let entityProperties ← d.entityProperties propertyClass
      return relationships.map ofRelationship ++ d.shapeRelations.map ofShape ++
        entityProperties.map ofRelationship := by
  rw [ofDataset, d.decodeAll_shapeRelationAnswers]
  rfl

end Declaration

/-- The declared ranges of a declared domain. -/
structure DomainDraft where
  domain : Option Iri
  ranges : List Iri
  deriving DecidableEq, Repr

/-- A relation while its declarations are read. -/
structure RelationDraft where
  iri : Iri
  domains : List DomainDraft
  deriving DecidableEq, Repr

namespace RelationDraft

/-- Adds a range to its domain, or a new domain. -/
def declare (r : RelationDraft) (domain : Option Iri) (range : Option Iri) : RelationDraft :=
  if r.domains.any (·.domain = domain) then
    { r with domains := r.domains.map fun s =>
        if s.domain = domain then { s with ranges := PathDraft.withNew s.ranges range } else s }
  else { r with domains := r.domains ++ [⟨domain, range.toList⟩] }

/-- Whether a declared domain is a class; a missing one is. -/
def resolves (h : Hierarchy) (domain : Option Iri) : Bool :=
  domain.all fun iri => (h.byIri iri).isSome

/-- Takes a declaration into account: one of another property with the same name does not count, and
one with an unknown domain says nothing more than that the relation exists. -/
def add (h : Hierarchy) (drafts : List RelationDraft) (d : Declaration) : List RelationDraft :=
  let known :=
    if drafts.any (·.iri.name = d.property.name) then drafts
    else drafts ++ [⟨d.property, []⟩]
  if resolves h d.domain then
    known.map fun r => if r.iri = d.property then r.declare d.domain d.range else r
  else known

/-- The class or else the shape of an IRI. -/
def target? (h : Hierarchy) (shapes : ShapeCatalog) (iri : Iri) : Option TargetType :=
  ((h.byIri iri).map TargetType.class).or ((shapes.byIri iri).map TargetType.shape)

/-- The relation of a draft: domains and ranges by the classes and shapes that they name. -/
def relation (h : Hierarchy) (shapes : ShapeCatalog) (r : RelationDraft) : Relation :=
  ⟨r.iri, r.domains.map fun s =>
    ⟨(s.domain.bind h.byIri).getD Hierarchy.base, distinct (s.ranges.filterMap (target? h shapes))⟩⟩

end RelationDraft

/-- The relations of an ontology, in the order of their first declarations. -/
structure RelationRegistry where
  relations : List Relation
  nameIndex : Index String
  nameIndex_eq : nameIndex = .last (relations.map Relation.name)
  deriving DecidableEq, Repr

namespace RelationRegistry

def ofRelations (rs : List Relation) : RelationRegistry := ⟨rs, _, rfl⟩

@[simp] theorem relations_ofRelations (rs : List Relation) : (ofRelations rs).relations = rs := rfl

def ofDeclarations (h : Hierarchy) (shapes : ShapeCatalog) (ds : List Declaration) :
    RelationRegistry :=
  ofRelations ((ds.foldl (RelationDraft.add h) []).map (RelationDraft.relation h shapes))

def build (d : Dataset) (h : Hierarchy) (shapes : ShapeCatalog) (propertyClass : Iri) :
    Except (List RowFault) RelationRegistry :=
  (Declaration.ofDataset d propertyClass).map (ofDeclarations h shapes)

def get? (r : RelationRegistry) (name : String) : Option Relation :=
  (r.nameIndex.get? name).bind (r.relations[·]?)

theorem mem_relations_of_get? {r : RelationRegistry} {name : String} {x : Relation}
    (hx : r.get? name = some x) : x ∈ r.relations ∧ x.name = name := by
  obtain ⟨n, hn, hat⟩ := Option.bind_eq_some_iff.1 hx
  refine ⟨List.mem_of_getElem? hat, ?_⟩
  rw [nameIndex_eq, Index.get?_last_eq_some_iff, List.getElem?_map, hat] at hn
  exact Option.some.inj hn.1

/-- The relations that instances of a class may use, in order. -/
def forClass (r : RelationRegistry) (h : Hierarchy) (c : ClassId) : List Relation :=
  r.relations.filter (·.appliesTo h c)

end RelationRegistry

end BuildingModel
