import BuildingModel.Proofs.Rdf.Graph
import BuildingModel.Proofs.Validation.Report

/-!
# Validation is local

The results of a node depend on what the data say of this very node and on the types of its values.
The order in which the statements were entered makes no difference, nor does any other statement. A
statement counts once for each graph that holds it, so for the statements about the node it matters
how many graphs hold them; for the types it does not.
-/
namespace BuildingModel.Rdf.Dataset

variable {d d' : Dataset} {qs : List Quad} {s : Node} {p : Iri}

/-- The number of graphs in which a dataset holds a statement. -/
def copies (d : Dataset) (t : Triple) : ℕ := (d.quads.map Quad.toTriple).count t

theorem count_objects (d : Dataset) (s : Node) (p : Iri) (o : Term) :
    (d.objects s p).count o = d.copies ⟨s, p, o⟩ := by
  unfold objects copies
  induction d.quads with
  | nil => rfl
  | cons q qs ih =>
    obtain ⟨⟨s', p', o'⟩, g⟩ := q
    rw [List.filterMap_cons, List.map_cons, List.count_cons, ← ih]
    by_cases hsp : s' = s ∧ p' = p
    · simp [hsp, List.count_cons]
    · have hne : (⟨s', p', o'⟩ : Triple) ≠ ⟨s, p, o⟩ := by
        intro heq
        exact hsp ⟨congrArg Triple.subject heq, congrArg Triple.predicate heq⟩
      simp [hsp, hne]

theorem perm_objects_of_copies (h : ∀ o, d.copies ⟨s, p, o⟩ = d'.copies ⟨s, p, o⟩) :
    (d.objects s p).Perm (d'.objects s p) := by
  rw [List.perm_iff_count]
  intro o
  rw [count_objects, count_objects, h o]

/-- What is said of a node stays as it is, in order, when statements about other nodes are
entered. -/
theorem objects_insertAll_of_ne (hqs : ∀ q ∈ qs, q.subject ≠ s) (p : Iri) :
    (d.insertAll qs).objects s p = d.objects s p := by
  obtain ⟨news, hquads, hnews⟩ := d.exists_quads_insertAll qs
  have hnone : (news.filterMap fun q =>
      if q.subject = s ∧ q.predicate = p then some q.object else none) = [] := by
    rw [List.filterMap_eq_nil_iff]
    intro q hq
    obtain ⟨r, hr, rfl⟩ := hnews q hq
    exact if_neg fun hsp => hqs r hr hsp.1
  rw [objects, objects, hquads, List.filterMap_append, hnone, List.nil_append]

/-- Two datasets state the same types of a node, in whatever graphs. -/
def SameTypes (d d' : Dataset) (m : Node) : Prop :=
  ∀ t, t ∈ d.objects m Vocabulary.type ↔ t ∈ d'.objects m Vocabulary.type

/-- Two datasets look the same from a node: each statement about it is in as many graphs of the one
as of the other, and the same types are stated of its values. -/
structure AgreeAround (d d' : Dataset) (n : Node) : Prop where
  copies : ∀ p o, d.copies ⟨n, p, o⟩ = d'.copies ⟨n, p, o⟩
  types : ∀ p (m : Node), m.term ∈ d.objects n p → SameTypes d d' m

namespace AgreeAround

variable {n : Node}

theorem perm_objects (h : AgreeAround d d' n) (p : Iri) :
    (d.objects n p).Perm (d'.objects n p) :=
  perm_objects_of_copies (h.copies p)

/-- Statements about nodes that are neither the node nor one of its values are not seen from it. -/
theorem insertAll (hqs : ∀ q ∈ qs, q.subject ≠ n ∧ ∀ p, q.subject.term ∉ d.objects n p) :
    AgreeAround (d.insertAll qs) d n := by
  have hown : ∀ p, (d.insertAll qs).objects n p = d.objects n p :=
    objects_insertAll_of_ne fun q hq => (hqs q hq).1
  constructor
  · intro p o
    rw [← count_objects, ← count_objects, hown]
  · intro p m hm t
    rw [hown] at hm
    have hvalue : ∀ q ∈ qs, q.subject ≠ m := by
      rintro q hq rfl
      exact (hqs q hq).2 p hm
    rw [objects_insertAll_of_ne hvalue]

end AgreeAround

end BuildingModel.Rdf.Dataset

namespace BuildingModel.Validation

open BuildingModel.Rdf

variable {o d d' : Dataset} {n m : Node} {v t : Term}

/-! ## Types and constraints -/

section Types

variable (h : d.SameTypes d' m)
include h

theorem typed_iff_of_sameTypes : Typed o d m t ↔ Typed o d' m t := by
  have hnone : d.objects m Vocabulary.type = [] ↔ d'.objects m Vocabulary.type = [] := by
    rw [List.eq_nil_iff_forall_not_mem, List.eq_nil_iff_forall_not_mem]
    exact forall_congr' fun t => not_congr (h t)
  rw [Typed, Typed, h t, hnone]

theorem instanceOf_iff_of_sameTypes {c : Iri} : InstanceOf o d m c ↔ InstanceOf o d' m c :=
  exists_congr fun _ => and_congr_left' (typed_iff_of_sameTypes h)

end Types

/-- A constraint on a value asks for nothing but the value and its types. -/
theorem holds_iff_of_sameTypes (h : ∀ m : Node, v = m.term → d.SameTypes d' m)
    (c : ValueConstraint) : Holds o d v c ↔ Holds o d' v c := by
  have hnode : ∀ c, NodeOf o d v c ↔ NodeOf o d' v c := fun c =>
    exists_congr fun m => and_congr_right fun hm => instanceOf_iff_of_sameTypes (h m hm)
  cases c with
  | «class» c => exact hnode c
  | alternatives options =>
    have hmeets : ∀ a, Meets o d a v ↔ Meets o d' a v := by
      intro a
      constructor
      · intro ha
        exact ⟨ha.something, fun c hc => (hnode c).1 (ha.ofClass c hc), ha.ofDatatype⟩
      · intro ha
        exact ⟨ha.something, fun c hc => (hnode c).2 (ha.ofClass c hc), ha.ofDatatype⟩
    exact exists_congr fun a => and_congr_right fun _ => hmeets a
  | datatype _ => exact Iff.rfl
  | pattern _ => exact Iff.rfl
  | minLength _ => exact Iff.rfl
  | maxLength _ => exact Iff.rfl
  | minInclusive _ => exact Iff.rfl
  | maxInclusive _ => exact Iff.rfl
  | members _ => exact Iff.rfl

/-! ## Results -/

section Results

variable (h : d.AgreeAround d' n) (memo : ClassMemo o)
include h

theorem sameTypes_of_agreeAround : d.SameTypes d' n :=
  fun _ => (h.perm_objects Vocabulary.type).mem_iff

open Classical in
/-- A property shape counts the same number of values and reports the same of each of them. -/
theorem property_check_perm (p : PropertyShape) (shape : Iri) :
    ((p.check shape d n : Lookup o (List Result)) memo).1.Perm
      ((p.check shape d' n : Lookup o (List Result)) memo).1 := by
  have hvalues := h.perm_objects p.path
  rw [PropertyShape.check, PropertyShape.check]
  simp only [bind_fst, pure_fst]
  rw [hvalues.length_eq, valuesResults_fst, valuesResults_fst]
  refine List.Perm.append_left _ ((hvalues.flatMap_right _).trans (List.Perm.of_eq ?_))
  apply List.flatMap_congr
  intro v hv
  have htypes : ∀ m : Node, v = m.term → d.SameTypes d' m := by
    rintro m rfl
    exact h.types p.path m (hvalues.mem_iff.2 hv)
  exact List.flatMap_congr fun c _ => if_congr (holds_iff_of_sameTypes htypes c) rfl rfl

open Classical in
theorem shape_check_perm (s : NodeShape) :
    ((s.check d n : Lookup o (List Result)) memo).1.Perm
      ((s.check d' n : Lookup o (List Result)) memo).1 := by
  have happlies : (n.term ∈ s.targetNodes ∨ ∃ c ∈ s.id :: s.targetClasses, InstanceOf o d n c) ↔
      n.term ∈ s.targetNodes ∨ ∃ c ∈ s.id :: s.targetClasses, InstanceOf o d' n c :=
    or_congr_right (exists_congr fun c => and_congr_right fun _ =>
      instanceOf_iff_of_sameTypes (sameTypes_of_agreeAround h))
  rw [shape_check_fst s memo memo, shape_check_fst s memo memo, if_congr happlies rfl rfl]
  split
  · exact List.Perm.flatMap_left _ fun p _ => property_check_perm h memo (s.graded p) s.id
  · exact .refl _

end Results

namespace ShapeValidator

theorem validateNode_perm (v : ShapeValidator) (h : d.AgreeAround d' n) :
    (v.validateNode d n).Perm (v.validateNode d' n) := by
  rw [validateNode, validateNode, checkShapes_fst v.shapes _ (.empty v.ontology),
    checkShapes_fst v.shapes _ (.empty v.ontology)]
  exact List.Perm.flatMap_left _ fun s _ => shape_check_perm h _ s

/-- Data that look the same from a node give it the same results, in some order. So statements about
nodes that are neither this node nor one of its values change nothing in its results. -/
theorem validateNode_sees_neighbours (v : ShapeValidator) (n : Node) :
    (∀ d d' : Dataset, d.AgreeAround d' n → (v.validateNode d n).Perm (v.validateNode d' n)) ∧
    ∀ (d : Dataset) (qs : List Quad),
      (∀ q ∈ qs, q.subject ≠ n ∧ ∀ p, q.subject.term ∉ d.objects n p) →
        (v.validateNode (d.insertAll qs) n).Perm (v.validateNode d n) :=
  ⟨fun _ _ h => validateNode_perm v h, fun _ _ hqs => validateNode_perm v (.insertAll hqs)⟩

end ShapeValidator

/-! ## Pumps -/

/-- A shape of pumps, which feed at most one thing, and tanks only. -/
def pumpShapes : Dataset := .ofTriples [
  ⟨.iri ⟨"urn:PumpShape"⟩, Vocabulary.type, .iri Shacl.nodeShape⟩,
  ⟨.iri ⟨"urn:PumpShape"⟩, Shacl.targetClass, .iri ⟨"urn:Pump"⟩⟩,
  ⟨.iri ⟨"urn:PumpShape"⟩, Shacl.property, .blank ⟨"p"⟩⟩,
  ⟨.blank ⟨"p"⟩, Shacl.path, .iri ⟨"urn:feeds"⟩⟩,
  ⟨.blank ⟨"p"⟩, Shacl.class, .iri ⟨"urn:Tank"⟩⟩,
  ⟨.blank ⟨"p"⟩, Shacl.maxCount, .literal (.typed "1" Xsd.integer)⟩]

def pumpValidator : ShapeValidator where
  ontology := pumpShapes
  shapes := [⟨⟨"urn:PumpShape"⟩, [⟨"urn:Pump"⟩], [],
    [⟨⟨"urn:feeds"⟩, none, some 1, [.class ⟨"urn:Tank"⟩], none, none⟩], .violation⟩]

theorem ofDataset_pumpShapes : ShapeValidator.ofDataset pumpShapes = .ok pumpValidator := by
  have hload : loadShapes pumpShapes .expressions = .ok pumpValidator.shapes :=
    loadShapes_of_single (by rfl)
  rw [ShapeValidator.ofDataset, hload]
  rfl

/-- A pump that feeds a tank. -/
def pumpStatements : List Triple := [
  ⟨.iri ⟨"urn:pump"⟩, Vocabulary.type, .iri ⟨"urn:Pump"⟩⟩,
  ⟨.iri ⟨"urn:pump"⟩, ⟨"urn:feeds"⟩, .iri ⟨"urn:tank"⟩⟩,
  ⟨.iri ⟨"urn:tank"⟩, Vocabulary.type, .iri ⟨"urn:Tank"⟩⟩]

def pumpData : Dataset := .ofTriples pumpStatements

/-- The same data with what the pump feeds said in one more graph. -/
def doubledPumpData : Dataset :=
  pumpData.insert
    ⟨⟨.iri ⟨"urn:pump"⟩, ⟨"urn:feeds"⟩, .iri ⟨"urn:tank"⟩⟩, some (.iri ⟨"urn:graph"⟩)⟩

/-- The same statements are not enough: the tank is a value once more, and too many then, if a
second graph says that the pump feeds it. -/
theorem doubled_statement_reported :
    (∀ t : Triple, (∃ g, (⟨t, g⟩ : Quad) ∈ pumpData) ↔ ∃ g, (⟨t, g⟩ : Quad) ∈ doubledPumpData) ∧
    ShapeValidator.ofDataset pumpShapes = .ok pumpValidator ∧
    ¬ (pumpValidator.validateNode pumpData (.iri ⟨"urn:pump"⟩)).Perm
      (pumpValidator.validateNode doubledPumpData (.iri ⟨"urn:pump"⟩)) := by
  refine ⟨?_, ofDataset_pumpShapes, ?_⟩
  · intro t
    unfold doubledPumpData
    simp only [Dataset.mem_insert]
    constructor
    · rintro ⟨g, hg⟩
      exact ⟨g, .inr hg⟩
    · rintro ⟨g, hg | hg⟩
      · obtain rfl : t = _ := congrArg Quad.toTriple hg
        exact ⟨none, by decide +kernel⟩
      · exact ⟨g, hg⟩
  · decide +kernel

/-- Data on a pump that feeds a drain as well, which is no tank. -/
def drainingPumpData : Dataset :=
  .ofTriples (pumpStatements ++ [⟨.iri ⟨"urn:pump"⟩, ⟨"urn:feeds"⟩, .iri ⟨"urn:drain"⟩⟩])

/-- The same in another order and in several graphs, among data on a well. -/
def pumpNetwork : Dataset :=
  Dataset.empty.insertAll [
    ⟨⟨.iri ⟨"urn:tank"⟩, Vocabulary.type, .iri ⟨"urn:Tank"⟩⟩, some (.iri ⟨"urn:graph"⟩)⟩,
    ⟨⟨.iri ⟨"urn:pump"⟩, ⟨"urn:feeds"⟩, .iri ⟨"urn:drain"⟩⟩, some (.iri ⟨"urn:graph"⟩)⟩,
    ⟨⟨.iri ⟨"urn:well"⟩, Vocabulary.type, .iri ⟨"urn:Pump"⟩⟩, none⟩,
    ⟨⟨.iri ⟨"urn:well"⟩, ⟨"urn:feeds"⟩, .iri ⟨"urn:tank"⟩⟩, none⟩,
    ⟨⟨.iri ⟨"urn:pump"⟩, ⟨"urn:feeds"⟩, .iri ⟨"urn:tank"⟩⟩, none⟩,
    ⟨⟨.iri ⟨"urn:pump"⟩, Vocabulary.type, .iri ⟨"urn:Pump"⟩⟩, none⟩]

theorem agreeAround_pump : drainingPumpData.AgreeAround pumpNetwork (.iri ⟨"urn:pump"⟩) := by
  have hown : ((drainingPumpData.quads.map Quad.toTriple).filter
        (·.subject = .iri ⟨"urn:pump"⟩)).Perm
      ((pumpNetwork.quads.map Quad.toTriple).filter (·.subject = .iri ⟨"urn:pump"⟩)) := by
    decide +kernel
  have hvalues : ∀ q ∈ drainingPumpData.quads, q.subject = .iri ⟨"urn:pump"⟩ →
      ∀ m ∈ q.object.node?, drainingPumpData.objects m Vocabulary.type =
        pumpNetwork.objects m Vocabulary.type := by decide +kernel
  constructor
  · intro p t
    have hcount := hown.count_eq ⟨.iri ⟨"urn:pump"⟩, p, t⟩
    rwa [List.count_filter (by simp), List.count_filter (by simp)] at hcount
  · intro p m hm t
    obtain ⟨g, hq⟩ := Dataset.mem_objects.1 hm
    rw [hvalues _ (Dataset.mem_quads.2 hq) rfl m (by simp)]

/-- The pump gets its two results in the network as well, and gets them still when the well has been
given a label. -/
theorem pumpValidator_sees_neighbours :
    (pumpValidator.validateNode drainingPumpData (.iri ⟨"urn:pump"⟩)).Perm
      (pumpValidator.validateNode pumpNetwork (.iri ⟨"urn:pump"⟩)) ∧
    (pumpValidator.validateNode
        (pumpNetwork.insertAll
          [⟨⟨.iri ⟨"urn:well"⟩, Vocabulary.label, .literal (.plain "Well")⟩, none⟩])
        (.iri ⟨"urn:pump"⟩)).Perm
      (pumpValidator.validateNode pumpNetwork (.iri ⟨"urn:pump"⟩)) ∧
    (pumpValidator.validateNode pumpNetwork (.iri ⟨"urn:pump"⟩)).map Result.constraint =
      [some "sh:maxCount", some "sh:class"] := by
  obtain ⟨hsame, hinsert⟩ := ShapeValidator.validateNode_sees_neighbours pumpValidator
    (.iri ⟨"urn:pump"⟩)
  refine ⟨hsame _ _ agreeAround_pump, hinsert _ _ ?_, by decide +kernel⟩
  intro q hq
  obtain rfl := List.mem_singleton.1 hq
  refine ⟨by decide, fun p hp => ?_⟩
  obtain ⟨g, hmem⟩ := Dataset.mem_objects.1 hp
  have hvalues : ∀ q ∈ pumpNetwork.quads, q.subject = .iri ⟨"urn:pump"⟩ →
      q.object ≠ .iri ⟨"urn:well"⟩ := by decide +kernel
  exact hvalues _ (Dataset.mem_quads.2 hmem) rfl rfl

end BuildingModel.Validation
