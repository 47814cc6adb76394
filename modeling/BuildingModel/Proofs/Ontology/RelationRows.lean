import BuildingModel.Proofs.Closure.Layers
import BuildingModel.Proofs.Ontology.Rows
import BuildingModel.Proofs.Ontology.TermOrder

/-!
# Rows of relations

What an ontology says of relations is in two kinds of rows. Those of properties pair their domains
with their ranges, and those of node shapes pair target classes with the classes that a property
shape allows. The rows are those that are stated, and no others.
-/
namespace BuildingModel

open BuildingModel.Rdf BuildingModel.Ontology

namespace Rdf.Dataset

variable {d : Dataset} {t x : Term} {m n : Node} {c q : Iri}

/-- The default graph says an object of a subject and a predicate. -/
def Says (d : Dataset) (s : Node) (p : Iri) (o : Term) : Prop :=
  (⟨s, p, o⟩ : Triple).inDefault ∈ d

instance (d : Dataset) (s : Node) (p : Iri) (o : Term) : Decidable (d.Says s p o) :=
  inferInstanceAs (Decidable ((⟨s, p, o⟩ : Triple).inDefault ∈ d))

theorem mem_objectsOfTerm : x ∈ d.objectsOfTerm t q ↔ ∃ n : Node, n.term = t ∧ d.Says n q x := by
  unfold objectsOfTerm
  cases hn : t.node? with
  | none =>
    constructor
    · intro hx
      cases hx
    · rintro ⟨n, rfl, -⟩
      rw [Term.node?_term] at hn
      cases hn
  | some n =>
    obtain rfl := Term.node?_eq_some_iff.1 hn
    constructor
    · intro hx
      exact ⟨n, rfl, mem_defaultObjects.1 hx⟩
    · rintro ⟨n', hn', hx⟩
      rw [Node.term_injective hn'] at hx
      exact mem_defaultObjects.2 hx

/-! ## Property shapes -/

/-- A property shape allows a class: it names the class, or a member of its alternatives does. -/
inductive Allows (d : Dataset) (m : Node) (c : Iri) : Prop
  | named (h : d.Says m Shacl.class (.iri c))
  | alternative {head cell member : Node} (hhead : d.Says m Shacl.alternatives head.term)
      (hcell : Relation.ReflTransGen (fun a b : Node => d.Says a Vocabulary.rest b.term) head cell)
      (hmember : d.Says cell Vocabulary.first member.term)
      (hclass : d.Says member Shacl.class (.iri c))

/-- What a property shape allows stays allowed where more is said. -/
theorem Allows.mono {d' : Dataset} {m : Node}
    (hkept : ∀ p ∈ [Shacl.class, Shacl.alternatives, Vocabulary.rest, Vocabulary.first],
      ∀ s o, d.Says s p o → d'.Says s p o) (h : d.Allows m c) : d'.Allows m c := by
  have hclass := hkept Shacl.class (by simp)
  cases h with
  | named h => exact .named (hclass _ _ h)
  | alternative hhead hcell hmember hallowed =>
    exact .alternative (hkept _ (by simp) _ _ hhead)
      (Relation.ReflTransGen.mono (fun a b => hkept _ (by simp) a b.term) _ _ hcell)
      (hkept _ (by simp) _ _ hmember) (hclass _ _ hallowed)

theorem leadsTo_rest_iff : LeadsTo (fun t => d.objectsOfTerm t Vocabulary.rest) t n.term ↔
    ∃ m : Node, m.term = t ∧
      Relation.ReflTransGen (fun a b : Node => d.Says a Vocabulary.rest b.term) m n := by
  constructor
  · intro h
    induction h using Relation.ReflTransGen.head_induction_on with
    | refl => exact ⟨n, rfl, .refl⟩
    | head hstep _ ih =>
      obtain ⟨b, rfl, hb⟩ := ih
      obtain ⟨a, rfl, hab⟩ := mem_objectsOfTerm.1 hstep
      exact ⟨a, rfl, .head hab hb⟩
  · rintro ⟨m, rfl, h⟩
    induction h using Relation.ReflTransGen.head_induction_on with
    | refl => exact .refl _
    | head hstep _ ih => exact .head (mem_objectsOfTerm.2 ⟨_, rfl, hstep⟩) ih

theorem mem_reached_rest_iff {head : Term} :
    n.term ∈ d.restSteps.reached head ↔
      ∃ m : Node, m.term = head ∧
        Relation.ReflTransGen (fun a b : Node => d.Says a Vocabulary.rest b.term) m n := by
  rw [Steps.mem_reached_iff, restSteps, leadsTo_rest_iff]

theorem mem_allowedClasses_iff : .iri c ∈ d.allowedClasses m.term ↔ d.Allows m c := by
  have hsaid : ∀ {m : Node} {q : Iri} {x : Term},
      x ∈ d.objectsOfTerm m.term q ↔ d.Says m q x := by
    intro m q x
    rw [objectsOfTerm, Term.node?_term]
    exact mem_defaultObjects
  simp only [allowedClasses, List.mem_append, List.mem_flatMap, hsaid]
  constructor
  · rintro (h | ⟨t, hhead, t', hcell, t'', hmember, hclass⟩)
    · exact .named h
    · obtain ⟨member, rfl, -⟩ := mem_objectsOfTerm.1 hclass
      obtain ⟨cell, rfl, -⟩ := mem_objectsOfTerm.1 hmember
      obtain ⟨head, rfl, hchain⟩ := mem_reached_rest_iff.1 hcell
      exact .alternative hhead hchain (hsaid.1 hmember) (hsaid.1 hclass)
  · rintro (h | ⟨hhead, hcell, hmember, hclass⟩)
    · exact .inl h
    · exact .inr ⟨_, hhead, _, mem_reached_rest_iff.2 ⟨_, rfl, hcell⟩, _, hsaid.2 hmember,
        hsaid.2 hclass⟩

end Rdf.Dataset

namespace Ontology

/-- A row says what a property shape of a node shape says of a relation. -/
structure ShapeRelationRow.StatedBy (d : Dataset) (shape m : Node) (r : ShapeRelationRow) :
    Prop where
  typed : d.Says shape Vocabulary.type (.iri Shacl.nodeShape)
  targetClass : d.Says shape Shacl.targetClass (.iri r.targetClass)
  property : d.Says shape Shacl.property m.term
  path : d.Says m Shacl.path (.iri r.path)
  allowed : d.Allows m r.allowed

/-- A row says what is stated of an instance of a class of properties, one of the values for its
domain and for its range. -/
structure RelationshipRow.StatedOf (d : Dataset) (c : Iri) (r : RelationshipRow) : Prop where
  typed : d.Says (.iri r.property) Vocabulary.type (.iri c)
  domain : ∃ t, Picks (d.defaultObjects (.iri r.property) Vocabulary.domain) t ∧
    r.domain = t.bind Term.iri?
  range : ∃ t, Picks (d.defaultObjects (.iri r.property) Vocabulary.range) t ∧
    r.range = t.bind Term.iri?

/-- The answer that binds the columns of a property. -/
def relationshipAnswer (property : Term) (domain range : Option Term) : Solution :=
  ⟨("prop", property) :: (Dataset.bound "dom" domain ++ Dataset.bound "rng" range)⟩

theorem decode_relationshipAnswer {property : Term} {domain range : Option Term}
    {r : RelationshipRow} :
    RelationshipRow.decode (relationshipAnswer property domain range) = .ok r ↔
      property = .iri r.property ∧ r.domain = domain.bind Term.iri? ∧
        r.range = range.bind Term.iri? := by
  have hproperty : (relationshipAnswer property domain range).term? "prop" = some property := rfl
  have hdomain : (relationshipAnswer property domain range).term? "dom" = domain := by
    cases domain <;> cases range <;> rfl
  have hrange : (relationshipAnswer property domain range).term? "rng" = range := by
    cases domain <;> cases range <;> rfl
  unfold RelationshipRow.decode Solution.iri?
  rw [hdomain, hrange]
  constructor
  · intro h
    obtain ⟨p, hp, h⟩ := bind_eq_ok h
    cases h
    rw [Solution.iri_eq_ok_iff, hproperty] at hp
    exact ⟨Option.some.inj hp, rfl, rfl⟩
  · rintro ⟨rfl, hd, hr⟩
    rw [Solution.iri_eq_ok_iff.2 hproperty, ← hd, ← hr]
    rfl

end Ontology

namespace Rdf.Dataset

variable {d : Dataset} {c : Iri}

theorem mem_shapeRelations_iff {r : ShapeRelationRow} :
    r ∈ d.shapeRelations ↔ ∃ shape m : Node, r.StatedBy d shape m := by
  simp only [shapeRelations, List.mem_mergeSort, mem_distinct, List.mem_flatMap, List.mem_map,
    List.mem_filterMap, mem_defaultSubjects, mem_defaultObjects, Term.iri?_eq_some_iff]
  constructor
  · rintro ⟨shape, htyped, targetClass, ⟨_, htarget, rfl⟩, t, hproperty, path, ⟨_, hpath, rfl⟩,
      allowed, ⟨_, hallowed, rfl⟩, rfl⟩
    obtain ⟨m, rfl, hsaid⟩ := mem_objectsOfTerm.1 hpath
    exact ⟨shape, m, htyped, htarget, hproperty, hsaid, mem_allowedClasses_iff.1 hallowed⟩
  · rintro ⟨shape, m, htyped, htarget, hproperty, hpath, hallowed⟩
    exact ⟨shape, htyped, r.targetClass, ⟨_, htarget, rfl⟩, m.term, hproperty, r.path,
      ⟨_, mem_objectsOfTerm.2 ⟨m, rfl, hpath⟩, rfl⟩, r.allowed,
      ⟨_, mem_allowedClasses_iff.2 hallowed, rfl⟩, rfl⟩

/-- The answers of one property: each pair of its domains and ranges. -/
def answersOf (d : Dataset) (property : Node) : List Solution :=
  (orAbsent (sortTerms (d.defaultObjects property Vocabulary.domain))).flatMap fun domain =>
    (orAbsent (sortTerms (d.defaultObjects property Vocabulary.range))).map fun range =>
      relationshipAnswer property.term domain range

theorem typedProperties_eq_flatMap (d : Dataset) (c : Iri) : d.typedProperties c =
    (sortNodes (d.defaultSubjects Vocabulary.type (.iri c))).flatMap d.answersOf := rfl

theorem answersOf_ne_nil (d : Dataset) (n : Node) : d.answersOf n ≠ [] := by
  obtain ⟨domain, hdomain⟩ := exists_picks (sortTerms (d.defaultObjects n Vocabulary.domain))
  obtain ⟨range, hrange⟩ := exists_picks (sortTerms (d.defaultObjects n Vocabulary.range))
  have hmem : relationshipAnswer n.term domain range ∈ d.answersOf n :=
    List.mem_flatMap.2 ⟨domain, mem_orAbsent_iff.2 hdomain,
      List.mem_map_of_mem (mem_orAbsent_iff.2 hrange)⟩
  exact List.ne_nil_of_mem hmem

theorem mem_typedProperties_iff {s : Solution} :
    s ∈ d.typedProperties c ↔ ∃ n : Node, d.Says n Vocabulary.type (.iri c) ∧
      ∃ domain, Picks (d.defaultObjects n Vocabulary.domain) domain ∧
      ∃ range, Picks (d.defaultObjects n Vocabulary.range) range ∧
        relationshipAnswer n.term domain range = s := by
  have hsorted : ∀ (ts : List Term) (t : Option Term), Picks (sortTerms ts) t ↔ Picks ts t :=
    fun ts t => Picks.congr fun x => mem_sortTerms
  simp only [typedProperties, List.mem_flatMap, List.mem_map, mem_sortNodes, mem_orAbsent_iff,
    hsorted, mem_defaultSubjects, relationshipAnswer, Says]

/-- The rows of a class of properties are those that are stated of one of its instances. -/
theorem mem_relationshipRows_iff {rows : List RelationshipRow}
    (h : decodeAll RelationshipRow.decode (d.typedProperties c) = .ok rows) {r : RelationshipRow} :
    r ∈ rows ↔ r.StatedOf d c := by
  have hall := decodeAll_eq_ok_iff.1 h
  constructor
  · intro hr
    obtain ⟨s, hs, hdecode⟩ := exists_of_mem_right hall hr
    obtain ⟨n, htyped, domain, hdomain, range, hrange, rfl⟩ := mem_typedProperties_iff.1 hs
    obtain ⟨hn, hd, hr⟩ := decode_relationshipAnswer.1 hdecode
    obtain rfl : n = .iri r.property := Node.term_injective hn
    exact ⟨htyped, ⟨domain, hdomain, hd⟩, ⟨range, hrange, hr⟩⟩
  · rintro ⟨htyped, ⟨domain, hdomain, hd⟩, ⟨range, hrange, hr⟩⟩
    obtain ⟨r', hr', hdecode⟩ := exists_of_mem_left hall
      (mem_typedProperties_iff.2 ⟨_, htyped, domain, hdomain, range, hrange, rfl⟩)
    have hrow : RelationshipRow.decode
        (relationshipAnswer (Node.iri r.property).term domain range) = .ok r :=
      decode_relationshipAnswer.2 ⟨rfl, hd, hr⟩
    rw [hrow] at hdecode
    cases hdecode
    exact hr'

/-- The instances of a class of properties can be read if all of them are IRIs. -/
theorem exists_relationshipRows_iff :
    (∃ rows, decodeAll RelationshipRow.decode (d.typedProperties c) = .ok rows) ↔
      ∀ n : Node, d.Says n Vocabulary.type (.iri c) → ∃ p, n = .iri p := by
  rw [exists_decodeAll_iff]
  constructor
  · intro hall n htyped
    obtain ⟨domain, hdomain⟩ := exists_picks (d.defaultObjects n Vocabulary.domain)
    obtain ⟨range, hrange⟩ := exists_picks (d.defaultObjects n Vocabulary.range)
    obtain ⟨r, hr⟩ := hall _
      (mem_typedProperties_iff.2 ⟨n, htyped, domain, hdomain, range, hrange, rfl⟩)
    exact ⟨r.property, Node.term_injective (decode_relationshipAnswer.1 hr).1⟩
  · intro hall s hs
    obtain ⟨n, htyped, domain, -, range, -, rfl⟩ := mem_typedProperties_iff.1 hs
    obtain ⟨p, rfl⟩ := hall n htyped
    exact ⟨⟨p, domain.bind Term.iri?, range.bind Term.iri?⟩,
      decode_relationshipAnswer.2 ⟨rfl, rfl, rfl⟩⟩

end Rdf.Dataset

end BuildingModel
